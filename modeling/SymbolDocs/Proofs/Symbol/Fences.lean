/-
Code between fences, read back.

Declarations and code listings are shown as a fence around a text. A reader of Markdown
skips the line that opens a fence and takes the lines up to the first one that closes it:
three backticks or more, behind at most three spaces and before nothing but blanks. The
text is written as it is, so it is read back exactly if none of its own lines closes the
fence (`readsBack_codeBlock_iff`); otherwise the fence ends at the first line that does. The
language stands on the opening line, and must not break it.

Which characters are blank at the end of a closing line is left open throughout, since the
results do not depend on it. Lines end at line feeds; for readers to whom a carriage return
ends a line as well, the same is said of the text with its line ends made one.
-/
import Mathlib.Data.List.TakeWhile
import SymbolDocs.Proofs.Discussion.Dispatch
import SymbolDocs.Symbol
import SymbolDocs.Text.Lines
import SymbolDocs.Text.Pieces

set_option autoImplicit false

namespace SymbolDocs.Markdown

open Text (pieces join unifyLineEnds)

/-! ## Readers of fences -/

/-- The lines of a text. -/
def linesOf (text : String) : List (List Char) :=
  pieces '\n' text.toList

/-- Whether a line closes a fence. -/
def closesFence (blank : Char → Bool) (line : List Char) : Bool :=
  let unindented := line.dropWhile (· = ' ')
  (line.takeWhile (· = ' ')).length ≤ 3
    && 3 ≤ (unindented.takeWhile (· = '`')).length
    && (unindented.dropWhile (· = '`')).all blank

/-- A fence as it is read: the text in it, and the lines that follow it. -/
structure Fenced where
  text : List Char
  after : List (List Char)
  deriving DecidableEq, Repr

/-- Reads the rest of a fence whose opening line was read. One that is never closed is
none. -/
def fenceIn? (blank : Char → Bool) (lines : List (List Char)) : Option Fenced :=
  match lines.dropWhile fun line => !closesFence blank line with
  | [] => none
  | _ :: after =>
    some { text := join '\n' (lines.takeWhile fun line => !closesFence blank line)
           after := after }

/-- Reads a text that begins with a fence. -/
def fence? (blank : Char → Bool) (block : List Char) : Option Fenced :=
  fenceIn? blank (pieces '\n' block).tail

/-- A block is a fence from its first line to its last, and this text is in it. -/
def ReadsBack (blank : Char → Bool) (block text : String) : Prop :=
  fence? blank block.toList = some { text := text.toList, after := [] }

/-- The blanks of Markdown. -/
def isSpaceOrTab (c : Char) : Bool :=
  c = ' ' || c = '\t'

section Reading

variable {blank : Char → Bool}

/-- The line that closes the fences that are written. -/
def fenceLine : List Char :=
  "```".toList

theorem closesFence_fenceLine : closesFence blank fenceLine = true := rfl

/-- A fence ends at the first line that closes it. -/
theorem fenceIn?_of_open {inside after : List (List Char)} {line : List Char}
    (hinside : ∀ l ∈ inside, closesFence blank l = false)
    (hline : closesFence blank line = true) :
    fenceIn? blank (inside ++ line :: after)
      = some { text := join '\n' inside, after := after } := by
  have hopen : ∀ l ∈ inside, (!closesFence blank l) = true := by
    intro l hl
    simp [hinside l hl]
  have hdrop : (inside ++ line :: after).dropWhile (fun l => !closesFence blank l)
      = line :: after := by
    rw [List.dropWhile_append_of_pos hopen, List.dropWhile_cons_of_neg (by simp [hline])]
  have htake : (inside ++ line :: after).takeWhile (fun l => !closesFence blank l) = inside := by
    rw [List.takeWhile_append_of_pos hopen, List.takeWhile_cons_of_neg (by simp [hline]),
      List.append_nil]
  simp only [fenceIn?, hdrop, htake]

/-- Lines with a closing one among them fall apart at the first of these. -/
theorem exists_first_closing {lines : List (List Char)}
    (h : ¬ ∀ l ∈ lines, closesFence blank l = false) :
    ∃ inside line after, lines = inside ++ line :: after
      ∧ (∀ l ∈ inside, closesFence blank l = false) ∧ closesFence blank line = true := by
  simp only [not_forall, Bool.not_eq_false] at h
  obtain ⟨l, hl, hcloses⟩ := h
  obtain ⟨line, inside, after, hnone, hline, heq, -⟩ :=
    List.exists_of_eraseP hl (p := closesFence blank) hcloses
  exact ⟨inside, line, after, heq, fun other hother => by simpa using hnone other hother, hline⟩

/-- A fence is closed by the last line exactly if no line before that closes it. -/
theorem fenceIn?_eq_some_iff {inside : List (List Char)} {text : List Char} :
    fenceIn? blank (inside ++ [fenceLine]) = some { text := text, after := [] }
      ↔ (∀ l ∈ inside, closesFence blank l = false) ∧ text = join '\n' inside := by
  by_cases h : ∀ l ∈ inside, closesFence blank l = false
  · rw [fenceIn?_of_open h closesFence_fenceLine, Option.some.injEq, Fenced.mk.injEq]
    constructor
    · rintro ⟨rfl, -⟩
      exact ⟨h, rfl⟩
    · rintro ⟨-, rfl⟩
      exact ⟨rfl, rfl⟩
  · obtain ⟨opening, line, after, rfl, hopening, hline⟩ := exists_first_closing h
    rw [List.append_assoc, List.cons_append, fenceIn?_of_open hopening hline, Option.some.injEq,
      Fenced.mk.injEq]
    constructor
    · intro hended
      exact absurd hended.2 (by simp)
    · intro hall
      exact absurd hall.1 h

end Reading

/-! ## Fences that are written -/

section Writing

variable {blank : Char → Bool}

theorem toList_codeBlock (code language : String) :
    (codeBlock code language).toList
      = fenceLine ++ language.toList ++ '\n' :: (code.toList ++ '\n' :: fenceLine) := by
  simp [codeBlock, fenceLine]

/-- The lines after the first one: those that the language goes on to, those of the code, and
the closing one. -/
theorem tail_pieces_codeBlock (code language : String) :
    (pieces '\n' (codeBlock code language).toList).tail
      = (pieces '\n' language.toList).tail ++ linesOf code ++ [fenceLine] := by
  have hopening : '\n' ∉ fenceLine := by decide
  have hclosing : pieces '\n' fenceLine = [fenceLine] := by decide
  rw [toList_codeBlock, Text.pieces_append, Text.pieces_append, hclosing,
    List.tail_append_of_ne_nil (Text.pieces_ne_nil _ _), Text.tail_pieces_append hopening,
    List.append_assoc, linesOf]

/-- Lines before those of a text make another text of them. -/
theorem join_append_linesOf_ne {before : List (List Char)} (h : before ≠ []) (code : String) :
    code.toList ≠ join '\n' (before ++ linesOf code) := by
  intro heq
  have hlength := congrArg List.length heq
  rw [linesOf, Text.join_append h (Text.pieces_ne_nil _ _), Text.join_pieces,
    List.length_append, List.length_cons] at hlength
  omega

/-- **A text is read back from a fence exactly if none of its lines closes the fence.** The
language must keep to its line. -/
theorem readsBack_codeBlock_iff (code language : String) :
    ReadsBack blank (codeBlock code language) code
      ↔ '\n' ∉ language.toList ∧ ∀ line ∈ linesOf code, closesFence blank line = false := by
  rw [ReadsBack, fence?, tail_pieces_codeBlock, fenceIn?_eq_some_iff,
    ← Text.tail_pieces_eq_nil_iff]
  by_cases hlanguage : (pieces '\n' language.toList).tail = []
  · rw [hlanguage, List.nil_append, linesOf, Text.join_pieces]
    simp
  · simp [hlanguage, join_append_linesOf_ne hlanguage code]

/-- A line of the code that closes the fence ends it, and what follows is outside. -/
theorem fence?_codeBlock_of_closing {code language : String} {inside after : List (List Char)}
    {line : List Char} (hlanguage : '\n' ∉ language.toList)
    (hlines : linesOf code = inside ++ line :: after)
    (hinside : ∀ l ∈ inside, closesFence blank l = false)
    (hline : closesFence blank line = true) :
    fence? blank (codeBlock code language).toList
      = some { text := join '\n' inside, after := after ++ [fenceLine] } := by
  rw [fence?, tail_pieces_codeBlock, Text.tail_pieces_eq_nil_iff.mpr hlanguage, hlines,
    List.nil_append, List.append_assoc, List.cons_append, fenceIn?_of_open hinside hline]

/-- For a reader to whom carriage returns end lines, a fence is written around the text with
its line ends made one. -/
theorem unifyLineEnds_codeBlock {code language : String} (hlanguage : '\r' ∉ language.toList)
    (hcode : code.toList.getLast? ≠ some '\r') :
    unifyLineEnds (codeBlock code language).toList
      = (codeBlock (String.ofList (unifyLineEnds code.toList)) language).toList := by
  have hopening : '\r' ∉ fenceLine ++ language.toList := by
    rw [List.mem_append, not_or]
    exact ⟨by decide, hlanguage⟩
  have hends : (fenceLine ++ language.toList).getLast? ≠ some '\r' :=
    fun h => hopening (List.mem_of_getLast? h)
  rw [toList_codeBlock, toList_codeBlock, Text.unifyLineEnds_append hends,
    Text.unifyLineEnds_append hcode, Text.unifyLineEnds_of_no_return hopening,
    String.toList_ofList]
  rfl

/-- What readers make of a block around a code, behind a language. -/
structure Encloses (blank : Char → Bool) (block code language : String) : Prop where
  /-- The code is read back exactly if no line of it closes the fence and the language keeps to
  its line. -/
  readsBack_iff : ReadsBack blank block code
    ↔ '\n' ∉ language.toList ∧ ∀ line ∈ linesOf code, closesFence blank line = false
  /-- Otherwise the first line that closes the fence ends it. -/
  ends_early : '\n' ∉ language.toList →
    ∀ inside line after, linesOf code = inside ++ line :: after →
      (∀ l ∈ inside, closesFence blank l = false) → closesFence blank line = true →
      fence? blank block.toList
        = some { text := join '\n' inside, after := after ++ [fenceLine] }
  /-- Readers to whom a carriage return ends a line as well read the code with its line ends
  made one, on the same condition. -/
  readsBack_unified_iff : '\n' ∉ language.toList → '\r' ∉ language.toList →
    code.toList.getLast? ≠ some '\r' →
    (fence? blank (unifyLineEnds block.toList)
        = some { text := unifyLineEnds code.toList, after := [] }
      ↔ ∀ line ∈ pieces '\n' (unifyLineEnds code.toList), closesFence blank line = false)

theorem encloses_codeBlock (code language : String) :
    Encloses blank (codeBlock code language) code language where
  readsBack_iff := readsBack_codeBlock_iff code language
  ends_early hlanguage _ _ _ hlines hinside hline :=
    fence?_codeBlock_of_closing hlanguage hlines hinside hline
  readsBack_unified_iff hlanguage hreturn hcode := by
    have hiff : ReadsBack blank _ _ ↔ _ :=
      readsBack_codeBlock_iff (String.ofList (unifyLineEnds code.toList)) language
    rw [ReadsBack, linesOf, String.toList_ofList] at hiff
    rw [unifyLineEnds_codeBlock hreturn hcode, hiff, and_iff_right hlanguage]

end Writing

end SymbolDocs.Markdown

namespace SymbolDocs

open Markdown

/-! ## Declarations and listings -/

/-- **Code is read back from its fence, unless a line of it closes the fence.** This holds of
every declaration that is shown, and of every code listing, whose code are the texts of its
children that are not empty, on lines of their own. -/
theorem code_encloses (blank : Char → Bool) :
    (∀ (settings : Settings) (r : Record) (code : String),
      r.declaration? = some code → code ≠ "" →
      Encloses blank (r.declarationBlock settings) code settings.language)
    ∧ ∀ n : Discussion.Node, n.kind = .codeListing →
      ∃ block, n.render = .ok (some block)
        ∧ Encloses blank block (String.intercalate "\n" n.lines) "" := by
  constructor
  · intro settings r code hcode hne
    have hblock : r.declarationBlock settings = codeBlock code settings.language := by
      rw [Record.declarationBlock, hcode]
      simp [hne]
    rw [hblock]
    exact encloses_codeBlock code settings.language
  · intro n hkind
    refine ⟨Discussion.listing n, ?_, ?_⟩
    · rw [Discussion.Node.render, hkind]
    · rw [Discussion.listing, Discussion.childTexts_eq_lines]
      exact encloses_codeBlock _ _

/-- A record of a declaration, and nothing else. -/
def recordOfCode (code : String) : Record :=
  { members := [("parsedDeclaration", .string code)] }

/-- Backticks in a declaration do no harm where they are too few, too far to the right or not
alone on their line. -/
theorem code_encloses_of_backticks :
    ReadsBack isSpaceOrTab
      ((recordOfCode "let a = `b`\n``\n    ```\n```swift").declarationBlock {})
      "let a = `b`\n``\n    ```\n```swift" := by
  obtain ⟨hdeclarations, -⟩ := code_encloses isSpaceOrTab
  have hencloses := hdeclarations {} (recordOfCode "let a = `b`\n``\n    ```\n```swift") _ rfl
    (by decide)
  exact hencloses.readsBack_iff.mpr (by decide +kernel)

/-- A declaration ends its fence early if a line of it closes the fence, a listing if a child
of it does; and a language with a line feed puts a line of its own into the fence. -/
theorem code_outside_its_fence :
    fence? isSpaceOrTab ((recordOfCode "a\n```\nb").declarationBlock {}).toList
        = some { text := "a".toList, after := ["b".toList, "```".toList] }
      ∧ (((Discussion.parse "<r><CodeListing><l>a</l><l>```</l></CodeListing></r>").toOption.bind
          fun nodes => (Discussion.fragments nodes).toOption)
        = some ["```\na\n```\n```"]
        ∧ ¬ ReadsBack isSpaceOrTab "```\na\n```\n```" "a\n```")
      ∧ fence? isSpaceOrTab ((recordOfCode "a").declarationBlock { language := "s\nx" }).toList
        = some { text := "x\na".toList, after := [] } := by
  refine ⟨by decide +kernel, ⟨by decide +kernel, ?_⟩, by decide +kernel⟩
  rw [ReadsBack]
  decide +kernel

end SymbolDocs
