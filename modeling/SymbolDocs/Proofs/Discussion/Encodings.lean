/-
Markup that declares an encoding.

Markup comes as characters and is read from its bytes in UTF-8, and the encoding that its
opening declaration names is applied to those. So what is read is the markup with another text
after the declaration, the one that its bytes are in that encoding, or none (`parse_write`).
Markup is read as it would be if the declaration named UTF-8 where the encoding keeps every
character after the declaration; all encodings keep the characters that they share with ASCII.
A letter outside ASCII is read as two others in an encoding of the ISO, and where a byte has
no character the whole markup is refused, although it is well formed. What is read in the end is
said only for encodings of which it is settled what each byte stands for.
-/
import SymbolDocs.Proofs.Discussion.Texts
import SymbolDocs.Proofs.Markup.Openings
import SymbolDocs.Proofs.Markup.Trees
import SymbolDocs.Proofs.Text.Charsets

set_option autoImplicit false

namespace SymbolDocs.Discussion

open Markup (Opening isEncodingName)
open Text (Charset)

/-- Markup with an opening declaration has no byte order mark before it. -/
theorem head?_write (form : Opening.Form) (name body : List Char) :
    (form.write name ++ body).head? = some '<' :=
  rfl

/-- The text of a document that declares its encoding. -/
theorem bodyOf_write (form : Opening.Form) {name : List Char} (hname : isEncodingName name = true)
    {charset : Charset} (hcharset : Charset.ofName? name = some charset) (body : List Char) :
    Markup.bodyOf (form.write name ++ body)
      = match charset.reread body with
        | some text => .ok (form.closing.standalone, text)
        | none => .error (.ofCharset charset) := by
  have hmark : ¬ (form.write name ++ body).head? = some '\uFEFF' := by
    rw [head?_write]
    decide
  rw [Markup.bodyOf]
  simp only [hmark, if_false, decide_false, Opening.ofText_write form hname hcharset body]
  change (match charset.reread body with | some text => _ | none => _) = _
  cases charset.reread body <;> rfl

/-- Markup is read by what it says after its declarations. -/
theorem parse_of_bodyOf {markup other : String}
    (h : Markup.bodyOf markup.toList = Markup.bodyOf other.toList) :
    parse markup = parse other := by
  rw [parse, parse, Markup.read_eq, Markup.read_eq, h]

/-- Markup in a form of declaration. -/
def declaring (form : Opening.Form) (name body : List Char) : String :=
  String.ofList (form.write name ++ body)

/-- The name of the encoding in which the bytes are. -/
def utf8Name : List Char := "UTF-8".toList

section Declared

variable (form : Opening.Form) {name : List Char} {charset : Charset}

/-- Markup is read as if it named UTF-8 and had for its text what its bytes are in the encoding
that it names. -/
theorem parse_of_reread (hname : isEncodingName name = true)
    (hcharset : Charset.ofName? name = some charset) {body text : List Char}
    (h : charset.reread body = some text) :
    parse (declaring form name body) = parse (declaring form utf8Name text) := by
  refine parse_of_bodyOf ?_
  rw [declaring, declaring, String.toList_ofList, String.toList_ofList,
    bodyOf_write form hname hcharset, h,
    bodyOf_write form (by decide) (show Charset.ofName? utf8Name = some .utf8 by decide),
    Charset.reread_utf8]

/-- Markup is refused if its bytes are no text in the encoding that it names. -/
theorem parse_of_reread_none (hname : isEncodingName name = true)
    (hcharset : Charset.ofName? name = some charset) {body : List Char}
    (h : charset.reread body = none) (hsettled : charset.isSettled = true) :
    parse (declaring form name body) = .error (.malformed .undecodable) := by
  have hfault : Markup.Fault.ofCharset charset = .undecodable := by
    cases charset with
    | untabulated => cases hsettled
    | _ => rfl
  rw [parse, Markup.read_eq, declaring, String.toList_ofList, bodyOf_write form hname hcharset, h,
    hfault]
  rfl

end Declared

/-- **Markup that declares its encoding.** It is an opening declaration with a name of that
encoding in it, and a text. With UTF-8 for the name it would be read as that text. If it is
settled what each byte stands for, it is read as what the bytes of the text are in the encoding
that it names, or refused if they are nothing in it. Whatever the encoding, it is read as that
text if the encoding keeps every character of it, and if they are characters that all encodings
share; where an encoding may hold back a last letter, the text must not end with one. In single
bytes, or in runs of digits, no text with a character outside ASCII is kept. -/
theorem parse_of_declared {markup : String} {charset : Charset} {standalone : Bool}
    {body : List Char}
    (hopening : Opening.ofText false markup.toList
      = .ok ({ charset := some charset, standalone := standalone }, body)) :
    ∃ (form : Opening.Form) (name : List Char),
      markup = declaring form name body ∧ Charset.ofName? name = some charset
        ∧ (charset.isSettled = true →
          match charset.reread body with
          | some text => parse markup = parse (declaring form utf8Name text)
          | none => parse markup = .error (.malformed .undecodable))
        ∧ ((∀ c ∈ body, charset.keeps c = true) →
          parse markup = parse (declaring form utf8Name body))
        ∧ ((∀ c ∈ body, Charset.isShared c = true) →
          (charset = .untabulated → Charset.isPlain body = true) →
          parse markup = parse (declaring form utf8Name body))
        ∧ (charset.reread body = some body →
          (charset = .shifted ∨ ∃ table, charset = .page table) →
          ∀ c ∈ body, c.toNat < 0x80) := by
  obtain ⟨form, name, hname, hcharset, -, hmarkup⟩ := Opening.exists_form hopening
  obtain rfl : markup = declaring form name body := by
    rw [declaring, ← hmarkup, String.ofList_toList]
  refine ⟨form, name, rfl, hcharset, fun hsettled => ?_, fun hkept => ?_,
    fun hshared hplain => ?_, Charset.ascii_of_reread⟩
  · cases hread : charset.reread body with
    | none => exact parse_of_reread_none form hname hcharset hread hsettled
    | some text => exact parse_of_reread form hname hcharset hread
  · exact parse_of_reread form hname hcharset (Charset.reread_of_keeps hkept)
  · exact parse_of_reread form hname hcharset
      (Charset.reread_of_isShared hcharset hshared hplain)

/-- A letter outside ASCII in markup that declares an encoding of the ISO. -/
def latinMarkup : String :=
  "<?xml version=\"1.0\" encoding=\"ISO-8859-1\"?><r>é</r>"

/-- The same letter by a reference, in markup that declares a Japanese encoding. -/
def referringMarkup : String :=
  "<?xml version='1.0' encoding='Shift_JIS' standalone = 'yes' ?><r>&#233;</r>"

/-- The letter is read as two others; the reference is read as it would be in UTF-8. -/
theorem parse_of_declared_letter_and_reference :
    (Opening.ofText false latinMarkup.toList
        = .ok ({ charset := some (.page .latin1), standalone := false }, "<r>é</r>".toList)
      ∧ ∃ form name, latinMarkup = declaring form name "<r>é</r>".toList
        ∧ parse latinMarkup = parse (declaring form utf8Name "<r>Ã©</r>".toList))
    ∧ Opening.ofText false referringMarkup.toList
        = .ok ({ charset := some (.double .shiftJis), standalone := true },
          "<r>&#233;</r>".toList)
      ∧ ∃ form name, referringMarkup = declaring form name "<r>&#233;</r>".toList
        ∧ parse referringMarkup = parse (declaring form utf8Name "<r>&#233;</r>".toList) := by
  have hlatin : Opening.ofText false latinMarkup.toList
      = .ok ({ charset := some (.page .latin1), standalone := false }, "<r>é</r>".toList) := by
    decide +kernel
  have hreferring : Opening.ofText false referringMarkup.toList
      = .ok ({ charset := some (.double .shiftJis), standalone := true },
        "<r>&#233;</r>".toList) := by
    decide +kernel
  refine ⟨⟨hlatin, ?_⟩, hreferring, ?_⟩
  · obtain ⟨form, name, hmarkup, -, hread, -⟩ := parse_of_declared hlatin
    have htext : (Charset.page .latin1).reread "<r>é</r>".toList = some "<r>Ã©</r>".toList := by
      decide +kernel
    have hletter := hread (by decide +kernel)
    rw [htext] at hletter
    exact ⟨form, name, hmarkup, hletter⟩
  · obtain ⟨form, name, hmarkup, -, -, -, hshared, -⟩ := parse_of_declared hreferring
    have hall : "<r>&#233;</r>".toList.all Charset.isShared = true := by decide
    exact ⟨form, name, hmarkup, hshared (List.all_eq_true.mp hall) nofun⟩

/-- Markup that is well formed need not be read as it would be if its declaration named UTF-8.
In one encoding of a byte a character a letter is read as two others, and in the other the
markup is refused. -/
theorem declared_encoding_changes_letter :
    (∃ nodes others : List Node,
      parse "<?xml version=\"1.0\" encoding=\"ISO-8859-1\"?><r>é</r>" = .ok nodes
        ∧ parse "<?xml version=\"1.0\" encoding=\"UTF-8\"?><r>é</r>" = .ok others
        ∧ nodes ≠ others)
      ∧ parse "<?xml version=\"1.0\" encoding=\"US-ASCII\"?><r>é</r>"
        = .error (.malformed .undecodable) := by
  constructor
  · have hlatin : some "Ã©" ∈ seen (·.text)
        "<?xml version=\"1.0\" encoding=\"ISO-8859-1\"?><r>é</r>" := by
      decide +kernel
    have hutf8 : some "é" ∈ seen (·.text)
        "<?xml version=\"1.0\" encoding=\"UTF-8\"?><r>é</r>" := by
      decide +kernel
    have hother : some "Ã©" ∉ seen (·.text)
        "<?xml version=\"1.0\" encoding=\"UTF-8\"?><r>é</r>" := by
      decide +kernel
    obtain ⟨nodes, n, hnodes, hn, hletters⟩ := exists_of_mem_seen hlatin
    obtain ⟨others, -, hothers, -⟩ := exists_of_mem_seen hutf8
    refine ⟨nodes, others, hnodes, hothers, fun hsame => hother ?_⟩
    rw [seen, hothers, ← hsame]
    exact List.mem_map.mpr ⟨n, hn, hletters⟩
  · exact parse_of_refusal? (by decide +kernel)

end SymbolDocs.Discussion
