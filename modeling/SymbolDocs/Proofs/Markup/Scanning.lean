/-
Scanning what is written.

Written markup is put together from small pieces: characters that are hidden behind
references, names, attributes, tags. For each of them this file says where scanning it
leads, from the mode it begins in to the mode it ends in, and which tokens it completes;
since the scanner never looks ahead, what is said of two pieces holds of the two in a
row (`leads_append`).

Written markup holds no carriage return, so no line end is ever pending. How many closing
brackets the scanner has counted is not followed, as no bracket count matters where a
closing angle bracket is hidden.
-/
import Mathlib.Data.List.TakeWhile
import SymbolDocs.Markup.Token.Scan
import SymbolDocs.Proofs.Markup.Spelling

set_option autoImplicit false

namespace SymbolDocs.Markup

/-! ## Where scanning leads -/

/-- Scanning a text leads from one mode to another and completes some tokens. No line end
is pending before or after. -/
def Leads (mode : Mode) (text : List Char) (last : Mode) (tokens : List Token) : Prop :=
  scan { mode := mode, returned := false } text
    = .ok ({ mode := last, returned := false }, tokens)

theorem leads_nil (mode : Mode) : Leads mode [] mode [] :=
  rfl

theorem leads_append {mode middle last : Mode} {as bs : List Char} {ts us : List Token}
    (ha : Leads mode as middle ts) (hb : Leads middle bs last us) :
    Leads mode (as ++ bs) last (ts ++ us) := by
  rw [Leads, scan_append, ha]
  simp only [bind, Except.bind]
  rw [hb]
  rfl

theorem leads_cons {mode middle last : Mode} {c : Char} {rest : List Char}
    {token : Option Token} {tokens : List Token} (hc : c ≠ '\r')
    (hstep : step mode c = .ok (middle, token)) (hrest : Leads middle rest last tokens) :
    Leads mode (c :: rest) last (token.toList ++ tokens) := by
  rw [Leads, scan, Place.advance_of_mode mode c hc, hstep]
  simp only [Except.map, bind, Except.bind]
  rw [hrest]
  rfl

/-- A step that completes nothing. -/
theorem leads_goOn {mode middle last : Mode} {c : Char} {rest : List Char}
    {tokens : List Token} (hc : c ≠ '\r') (hstep : step mode c = goOn middle)
    (hrest : Leads middle rest last tokens) : Leads mode (c :: rest) last tokens :=
  leads_cons hc hstep hrest

/-- A step that completes a token, as the last one. -/
theorem leads_complete {mode : Mode} {c : Char} {token : Token} (hc : c ≠ '\r')
    (hstep : step mode c = complete token) : Leads mode [c] (.content 0) [token] :=
  leads_cons hc hstep (leads_nil _)

/-! ## Names -/

theorem not_isSpace_of_isNameChar {c : Char} (h : isNameChar c = true) :
    isSpace c = false := by
  have hne (d : Char) (hd : isNameChar d = false) : (c = d) = False :=
    eq_false (ne_of_isNameChar h hd)
  simp [isSpace, hne ' ' (by decide), hne '\t' (by decide), hne '\n' (by decide),
    hne '\r' (by decide)]

/-- The characters of a name are only collected. -/
theorem leads_collect {collecting : List Char → Mode}
    (hstep : ∀ collected c, isNameChar c = true →
      step (collecting collected) c = goOn (collecting (c :: collected)))
    {cs : List Char} (hcs : ∀ c ∈ cs, isNameChar c = true) (collected : List Char) :
    Leads (collecting collected) cs (collecting (cs.reverse ++ collected)) [] := by
  induction cs generalizing collected with
  | nil => exact leads_nil _
  | cons c rest ih =>
    have hc := hcs c List.mem_cons_self
    have hrest := ih (fun d hd => hcs d (List.mem_cons_of_mem _ hd)) (c :: collected)
    rw [List.reverse_cons, List.append_assoc, List.singleton_append]
    exact leads_goOn (ne_of_isNameChar hc (by decide)) (hstep collected c hc) hrest

/-- A simple name has no colon. -/
theorem not_mem_colon {name : List Char} (h : isSimpleName name = true) : ':' ∉ name := by
  intro hmem
  exact ne_of_isNameChar (isNameChar_of_mem h hmem) (d := ':') (by decide) rfl

/-- A simple name counts as a name in which colons are letters. -/
theorem isName_of_isSimpleName {name : List Char} (h : isSimpleName name = true) :
    isName name = true := by
  cases name with
  | nil => exact absurd h Bool.false_ne_true
  | cons c rest =>
    rw [isSimpleName, Bool.and_eq_true, Bool.and_eq_true, List.all_eq_true] at h
    obtain ⟨⟨hstart, hrest⟩, hbear⟩ := h
    rw [isName, hstart, hbear, Bool.true_or, Bool.true_and, Bool.and_true,
      List.all_eq_true]
    intro d hd
    rw [hrest d hd, Bool.true_or]

theorem split_of_not_mem {name : List Char} (h : ':' ∉ name) :
    QName.split name = .plain name := by
  have hne : ∀ c ∈ name, decide (c ≠ ':') = true := by
    intro c hc
    rw [decide_eq_true_eq]
    rintro rfl
    exact h hc
  have hdrop : name.dropWhile (· ≠ ':') = [] :=
    List.dropWhile_eq_nil_iff.mpr hne
  rw [QName.split, hdrop]
  split
  · rename_i heq
    exact absurd heq (by simp)
  · rfl

/-- A simple name is read as a name without qualifier. -/
theorem ofChars?_of_isSimpleName {name : List Char} (h : isSimpleName name = true) :
    QName.ofChars? name = some (.plain name) := by
  rw [QName.ofChars?, split_of_not_mem (not_mem_colon h)]
  simp [QName.plain, isSimpleName, isName_of_isSimpleName h]

theorem nameOf_reverse {name : List Char} (h : isSimpleName name = true) :
    nameOf name.reverse = .ok (.plain name) := by
  rw [nameOf, List.reverse_reverse, ofChars?_of_isSimpleName h]

theorem isProper_plain {name : List Char} (h : isSimpleName name = true) :
    (QName.plain name).isProper = true := by
  rw [QName.isProper, Bool.not_eq_true', ← Bool.not_eq_true, List.contains_iff_mem]
  exact not_mem_colon h

/-! ## Text and values -/

/-- The token that a character of text is completed as: itself, or the reference that
hides it. -/
def textToken (hides : Char → Bool) (c : Char) : Token :=
  if (hidden? hides c).isSome then .reference c else .char c

/-- Every reference is completed in character data. -/
theorem leads_reference {entry : Char × List Char} (h : entry ∈ references)
    (brackets : Nat) :
    Leads (.content brackets) entry.2 (.content 0) [.reference entry.1] := by
  simp only [references, List.mem_cons, List.not_mem_nil, or_false] at h
  rcases h with rfl | rfl | rfl | rfl | rfl | rfl | rfl | rfl
  · rfl
  · rfl
  · rfl
  · rfl
  · rfl
  · rfl
  · rfl
  · rfl

theorem mem_references_of_hidden? {hides : Char → Bool} {c : Char} {reference : List Char}
    (h : hidden? hides c = some reference) : (c, reference) ∈ references := by
  unfold hidden? at h
  split at h
  · exact mem_references h
  · exact absurd h.symm (Option.some_ne_none reference)

/-- A character that is not hidden is none that must be. -/
theorem ne_of_hidden? {hides : Char → Bool} {specials : List Char}
    (hspecials : specials ⊆ valueSpecials) (h : ∀ c ∈ specials, hides c = true) {c d : Char}
    (hc : hidden? hides c = none) (hd : d ∈ specials) : c ≠ d := by
  rintro rfl
  have hsome := hidden?_isSome hspecials h hd
  rw [hc] at hsome
  exact Bool.false_ne_true hsome

theorem leads_textChar (e : Escaping) (c : Char) (brackets : Nat) :
    ∃ last, Leads (.content brackets) (spell e.inText c) (.content last)
      [textToken e.inText c] := by
  cases hc : hidden? e.inText c with
  | some reference =>
    rw [spell, textToken, hc]
    exact ⟨0, leads_reference (mem_references_of_hidden? hc) brackets⟩
  | none =>
    have hne (d : Char) (hd : d ∈ textSpecials) : c ≠ d :=
      ne_of_hidden? (List.subset_append_left _ _) e.text_hides hc hd
    -- A closing bracket is counted, so the mode is another one after it.
    have hstep : step (.content brackets) c
        = .ok (.content (if c = ']' then min (brackets + 1) 2 else 0), some (.char c)) := by
      simp [step, stepContent, hne '&' (by decide), hne '<' (by decide),
        hne '>' (by decide)]
    rw [spell, textToken, hc]
    exact ⟨_, leads_cons (hne '\r' (by decide)) hstep (leads_nil _)⟩

/-- Written text completes a token for each of its characters. -/
theorem leads_text (e : Escaping) (text : List Char) (brackets : Nat) :
    ∃ last, Leads (.content brackets) (e.text text) (.content last)
      (text.map (textToken e.inText)) := by
  induction text generalizing brackets with
  | nil => exact ⟨brackets, leads_nil _⟩
  | cons c rest ih =>
    obtain ⟨middle, hc⟩ := leads_textChar e c brackets
    obtain ⟨last, hrest⟩ := ih middle
    exact ⟨last, leads_append hc hrest⟩

/-- A value between double quotes, with the given parts read so far. -/
def valueMode (tag : PartialTag) (name : QName) (parts : List ValuePart) : Mode :=
  .value { tag := tag, name := name, quote := '"', parts := parts }

/-- Every reference is read as its character in a value. -/
theorem leads_reference_in_value {entry : Char × List Char} (h : entry ∈ references)
    (tag : PartialTag) (name : QName) (parts : List ValuePart) :
    Leads (valueMode tag name parts) entry.2 (valueMode tag name (.char entry.1 :: parts))
      [] := by
  simp only [references, List.mem_cons, List.not_mem_nil, or_false] at h
  rcases h with rfl | rfl | rfl | rfl | rfl | rfl | rfl | rfl
  · rfl
  · rfl
  · rfl
  · rfl
  · rfl
  · rfl
  · rfl
  · rfl

theorem leads_valueChar (e : Escaping) (tag : PartialTag) (name : QName)
    (parts : List ValuePart) (c : Char) :
    Leads (valueMode tag name parts) (spell e.inValues c)
      (valueMode tag name (.char c :: parts)) [] := by
  cases hc : hidden? e.inValues c with
  | some reference =>
    rw [spell, hc]
    exact leads_reference_in_value (mem_references_of_hidden? hc) tag name parts
  | none =>
    have hne (d : Char) (hd : d ∈ valueSpecials) : c ≠ d :=
      ne_of_hidden? (List.Subset.refl _) e.value_hides hc hd
    -- Of the characters that a value turns into spaces only the space is written openly.
    have hspace : (if isSpace c = true then ' ' else c) = c := by
      simp only [isSpace, hne '\t' (by decide), hne '\n' (by decide), hne '\r' (by decide),
        Bool.or_false, decide_false, decide_eq_true_eq]
      split
      · rename_i h
        exact h.symm
      · rfl
    have hstep : step (valueMode tag name parts) c
        = goOn (valueMode tag name (.char c :: parts)) := by
      simp [step, valueMode, stepValue, hne '"' (by decide), hne '<' (by decide),
        hne '&' (by decide), hspace]
    rw [spell, hc]
    exact leads_goOn (hne '\r' (by decide)) hstep (leads_nil _)

/-- A written value is read part by part. -/
theorem leads_value (e : Escaping) (tag : PartialTag) (name : QName)
    (parts : List ValuePart) (value : List Char) :
    Leads (valueMode tag name parts) (e.value value)
      (valueMode tag name ((value.map .char).reverse ++ parts)) [] := by
  induction value generalizing parts with
  | nil => exact leads_nil _
  | cons c rest ih =>
    rw [Escaping.value, List.flatMap_cons, List.map_cons, List.reverse_cons,
      List.append_assoc, List.singleton_append]
    exact leads_append (leads_valueChar e tag name parts c) (ih (.char c :: parts))

/-! ## Tags -/

/-- An attribute as it is written. -/
def Attribute.written (a : Attribute) : WrittenAttribute :=
  { name := a.name, value := a.value }

/-- A tag as it is written. -/
def Tag.written (tag : Tag) : WrittenTag :=
  { name := tag.name, attributes := tag.attributes.map Attribute.written }

/-- In a mode, the tag that was read so far can end, or can go on after a space. -/
def Mode.Holds (mode : Mode) (tag : PartialTag) : Prop :=
  ∀ c, c = '>' ∨ c = '/' ∨ c = ' ' → ∃ otherwise, step mode c = inTag tag c otherwise

theorem holds_tagName {name : List Char} (h : isSimpleName name = true) :
    Mode.Holds (.tagName name.reverse) { name := .plain name, attributes := [] } := by
  intro c hc
  refine ⟨.error .tag, ?_⟩
  have hend : (c = '>' || c = '/' || isSpace c) = true := by
    rcases hc with rfl | rfl | rfl <;> rfl
  simp only [step, hend, if_true, nameOf_reverse h]
  rfl

theorem holds_valueEnd (tag : PartialTag) : Mode.Holds (.valueEnd tag) tag :=
  fun _ _ => ⟨.error .attribute, rfl⟩

theorem leads_tagName {name : List Char} (h : isSimpleName name = true) (brackets : Nat) :
    Leads (.content brackets) ('<' :: name) (.tagName name.reverse) [] := by
  obtain ⟨c, rest, rfl, hstart, hall⟩ := isSimpleName_cons h
  have hc := hall c List.mem_cons_self
  -- After the angle bracket the first character decides that this is an opening tag.
  have hangle : step .angle c = goOn (.tagName [c]) := by
    simp [step, ne_of_isNameChar hc (d := '!') (by decide),
      ne_of_isNameChar hc (d := '?') (by decide), ne_of_isNameChar hc (d := '/') (by decide)]
  have hcollect : Leads (.tagName [c]) rest (.tagName (rest.reverse ++ [c])) [] := by
    refine leads_collect ?_ (fun d hd => hall d (List.mem_cons_of_mem _ hd)) [c]
    intro collected d hd
    simp [step, ne_of_isNameChar hd (d := '>') (by decide),
      ne_of_isNameChar hd (d := '/') (by decide), not_isSpace_of_isNameChar hd]
  rw [List.reverse_cons]
  exact leads_goOn (by decide) rfl
    (leads_goOn (ne_of_isNameChar hc (by decide)) hangle hcollect)

/-- An attribute is read from wherever the tag can go on. -/
theorem leads_attribute (e : Escaping) {mode : Mode} {tag : PartialTag}
    (hmode : mode.Holds tag) {a : Attribute} (ha : a.IsPlain) :
    Leads mode (printPair a.name.print (e.value a.text))
      (.valueEnd { tag with attributes := a.written :: tag.attributes }) [] := by
  obtain ⟨c, rest, hname, hstart, hall⟩ := isSimpleName_cons ha.simple
  have hc := hall c (hname ▸ List.mem_cons_self)
  obtain ⟨otherwise, hspace⟩ := hmode ' ' (.inr (.inr rfl))
  -- Along the written form: the space, the name, the equals sign, the quote, the value
  -- and the quote that ends it.
  have hgap : step mode ' ' = goOn (.tagGap tag) := hspace
  have hfirst : step (.tagGap tag) c = goOn (.attributeName tag [c]) := by
    simp [step, inTag, ne_of_isNameChar hc (d := '>') (by decide),
      ne_of_isNameChar hc (d := '/') (by decide), not_isSpace_of_isNameChar hc]
  have hcollect : Leads (.attributeName tag [c]) rest
      (.attributeName tag (rest.reverse ++ [c])) [] := by
    refine leads_collect ?_ (fun d hd => hall d (hname ▸ List.mem_cons_of_mem _ hd)) [c]
    intro collected d hd
    simp [step, ne_of_isNameChar hd (d := '=') (by decide), not_isSpace_of_isNameChar hd]
  have hequals : step (.attributeName tag (rest.reverse ++ [c])) '='
      = goOn (.equals tag a.name.part.reverse) := by
    rw [hname, List.reverse_cons]
    rfl
  have hquote : step (.equals tag a.name.part.reverse) '"'
      = goOn (valueMode tag a.name []) := by
    have hspace : isSpace '"' = false := by decide
    simp only [step, hspace, nameOf_reverse ha.simple]
    rw [QName.eq_plain ha.qualifier]
    rfl
  have hvalue := leads_value e tag a.name [] a.text
  have hend : step (valueMode tag a.name ((a.text.map ValuePart.char).reverse ++ [])) '"'
      = goOn (.valueEnd { tag with attributes := a.written :: tag.attributes }) := by
    rw [Attribute.written, ha.value, List.append_nil]
    simp [step, valueMode, stepValue]
  have hpair : printPair a.name.print (e.value a.text)
      = ' ' :: c :: (rest ++ '=' :: '"' :: (e.value a.text ++ ['"'])) := by
    rw [printPair, QName.print_of_qualifier ha.qualifier, hname]
    simp
  rw [hpair]
  refine leads_goOn (by decide) hgap
    (leads_goOn (ne_of_isNameChar hc (by decide)) hfirst ?_)
  refine leads_append hcollect (leads_goOn (by decide) hequals
    (leads_goOn (by decide) hquote ?_))
  exact leads_append hvalue (leads_goOn (by decide) hend (leads_nil _))

theorem leads_attributes (e : Escaping) {as : List Attribute} (has : ∀ a ∈ as, a.IsPlain)
    {mode : Mode} {tag : PartialTag} (hmode : mode.Holds tag) :
    ∃ last, Leads mode (as.flatMap fun a => printPair a.name.print (e.value a.text)) last []
      ∧ last.Holds
        { tag with attributes := (as.map Attribute.written).reverse ++ tag.attributes } := by
  -- By induction on the attributes. What carries it is that the tag can go on after each
  -- of them, whichever mode that is in.
  induction as generalizing mode tag with
  | nil => exact ⟨mode, leads_nil _, hmode⟩
  | cons a rest ih =>
    have ha := leads_attribute e hmode (has a List.mem_cons_self)
    obtain ⟨last, hlast, hholds⟩ :=
      ih (fun b hb => has b (List.mem_cons_of_mem _ hb)) (holds_valueEnd _)
    refine ⟨last, leads_append ha hlast, ?_⟩
    rw [List.map_cons, List.reverse_cons, List.append_assoc, List.singleton_append]
    exact hholds

/-- What stands in a tag leads to a mode in which the tag has been read. -/
theorem leads_tag (e : Escaping) {tag : Tag} (h : tag.IsPlain) (brackets : Nat) :
    ∃ last, Leads (.content brackets) ('<' :: e.tag tag) last []
      ∧ last.Holds
        { name := tag.name, attributes := (tag.attributes.map Attribute.written).reverse } := by
  obtain ⟨last, hlast, hholds⟩ :=
    leads_attributes e h.attributes (holds_tagName h.simple)
  rw [Escaping.tag, QName.print_of_qualifier h.qualifier]
  refine ⟨last, leads_append (leads_tagName h.simple brackets) hlast, ?_⟩
  rw [List.append_nil, ← QName.eq_plain h.qualifier] at hholds
  exact hholds

theorem finished_written (tag : Tag) :
    PartialTag.finished
        { name := tag.name, attributes := (tag.attributes.map Attribute.written).reverse }
      = tag.written := by
  rw [PartialTag.finished, Tag.written, List.reverse_reverse]

/-- A tag that opens an element. -/
theorem leads_startTag (e : Escaping) {tag : Tag} (h : tag.IsPlain) (brackets : Nat) :
    Leads (.content brackets) ('<' :: e.tag tag ++ ['>']) (.content 0)
      [.startTag tag.written] := by
  obtain ⟨last, hlast, hholds⟩ := leads_tag e h brackets
  obtain ⟨otherwise, hstep⟩ := hholds '>' (.inl rfl)
  rw [← finished_written]
  exact leads_append hlast (leads_complete (by decide) hstep)

/-- A tag that is an element by itself. -/
theorem leads_alone (e : Escaping) {tag : Tag} (h : tag.IsPlain) (brackets : Nat) :
    Leads (.content brackets) (e.alone tag) (.content 0) [.emptyTag tag.written] := by
  obtain ⟨last, hlast, hholds⟩ := leads_tag e h brackets
  obtain ⟨otherwise, hstep⟩ := hholds '/' (.inr (.inl rfl))
  rw [← finished_written]
  exact leads_append hlast
    (leads_goOn (by decide) hstep (leads_complete (by decide) rfl))

/-- A tag that closes an element. -/
theorem leads_endTag {tag : Tag} (h : tag.IsPlain) (brackets : Nat) :
    Leads (.content brackets) ('<' :: '/' :: tag.name.print ++ ['>']) (.content 0)
      [.endTag tag.name] := by
  have hcollect : Leads (.endName []) tag.name.part (.endName (tag.name.part.reverse ++ []))
      [] := by
    refine leads_collect ?_ (fun d hd => isNameChar_of_mem h.simple hd) []
    intro collected d hd
    simp [step, ne_of_isNameChar hd (d := '>') (by decide), not_isSpace_of_isNameChar hd]
  have hend : step (.endName (tag.name.part.reverse ++ [])) '>'
      = complete (.endTag tag.name) := by
    rw [List.append_nil, QName.eq_plain h.qualifier]
    simp only [step, QName.plain, nameOf_reverse h.simple]
    rfl
  rw [QName.print_of_qualifier h.qualifier]
  exact leads_goOn (by decide) rfl (leads_goOn (by decide) rfl
    (leads_append hcollect (leads_complete (by decide) hend)))

/-! ## Pieces -/

/-- A text that completes some tokens wherever it stands in character data, and leaves
the scanner there. -/
def Scans (text : List Char) (tokens : List Token) : Prop :=
  ∀ brackets, ∃ last, Leads (.content brackets) text (.content last) tokens

theorem scans_nil : Scans [] [] :=
  fun brackets => ⟨brackets, leads_nil _⟩

theorem scans_append {as bs : List Char} {ts us : List Token} (ha : Scans as ts)
    (hb : Scans bs us) : Scans (as ++ bs) (ts ++ us) := by
  intro brackets
  obtain ⟨middle, hmiddle⟩ := ha brackets
  obtain ⟨last, hlast⟩ := hb middle
  exact ⟨last, leads_append hmiddle hlast⟩

end SymbolDocs.Markup
