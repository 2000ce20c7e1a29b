/-
Line ends and positions in a text.

A text file may end its lines with a line feed, a carriage return or the pair of
both; readers of records and of markup see a line feed for each. A position in a
text is told in two ways at once, as a count of characters from the start and as
line and column, because diagnostics print both.
-/

set_option autoImplicit false

namespace SymbolDocs.Text

/-- A text with every line end, be it a carriage return, a line feed or the pair,
written as one line feed. -/
def unifyLineEnds : List Char → List Char
  | '\r' :: '\n' :: rest => '\n' :: unifyLineEnds rest
  | '\r' :: rest => '\n' :: unifyLineEnds rest
  | c :: rest => c :: unifyLineEnds rest
  | [] => []

theorem unifyLineEnds_of_no_return {cs : List Char} (h : '\r' ∉ cs) : unifyLineEnds cs = cs := by
  fun_induction unifyLineEnds cs with
  | case1 rest ih | case2 rest hrest ih => exact absurd List.mem_cons_self h
  | case3 c rest hpair hreturn ih => rw [ih (mt (List.mem_cons_of_mem c) h)]
  | case4 => rfl

/-- No carriage return is left. -/
theorem not_mem_unifyLineEnds (cs : List Char) : '\r' ∉ unifyLineEnds cs := by
  fun_induction unifyLineEnds cs with
  | case1 rest ih => simpa using ih
  | case2 rest hrest ih => simpa using ih
  | case3 c rest hpair hreturn ih => simpa [ih] using fun h => hreturn h.symm
  | case4 => exact List.not_mem_nil

theorem unifyLineEnds_eq_self_iff {cs : List Char} : unifyLineEnds cs = cs ↔ '\r' ∉ cs := by
  constructor
  · intro h
    rw [← h]
    exact not_mem_unifyLineEnds cs
  · exact unifyLineEnds_of_no_return

/-- A line feed stays one, and parts the line ends before it from those after it, unless it
belongs to a carriage return. -/
theorem unifyLineEnds_append {as : List Char} (h : as.getLast? ≠ some '\r') (bs : List Char) :
    unifyLineEnds (as ++ '\n' :: bs) = unifyLineEnds as ++ '\n' :: unifyLineEnds bs := by
  have hnext {c : Char} {rest : List Char} (hlast : (c :: rest).getLast? ≠ some '\r') :
      rest.getLast? ≠ some '\r' := by
    cases rest with
    | nil => exact nofun
    | cons d more => rwa [List.getLast?_cons_cons] at hlast
  fun_induction unifyLineEnds as with
  | case1 rest ih =>
    rw [List.cons_append, List.cons_append, unifyLineEnds, ih (hnext (hnext h)), List.cons_append]
  | case2 rest hpair ih =>
    cases rest with
    | nil => exact absurd rfl h
    | cons d more =>
      have hd : d ≠ '\n' := fun hd => hpair more (by rw [hd])
      rw [List.cons_append, unifyLineEnds, ih (hnext h), List.cons_append]
      rintro rest' hrest'
      exact hd (List.cons.inj hrest').1
  | case3 c rest hpair hreturn ih =>
    have hc : c ≠ '\r' := hreturn
    rw [List.cons_append, unifyLineEnds, ih (hnext h), List.cons_append]
    · exact fun _ hc' => absurd hc' hc
    · exact hc
  | case4 => rfl

/-- A place in a text: lines and columns count from one, the offset from zero. -/
structure Position where
  line : Nat
  column : Nat
  offset : Nat
  deriving DecidableEq, Repr

/-- The place of the character at `offset`. Its line is one more than the number
of line feeds before it, its column one more than the number of characters since
the last of them. -/
def Position.ofOffset (text : List Char) (offset : Nat) : Position :=
  let before := text.take offset
  { line := before.count '\n' + 1
    column := (before.reverse.takeWhile (· ≠ '\n')).length + 1
    offset := offset }

/-- How a diagnostic names a place. -/
def Position.describe (p : Position) : String :=
  "line " ++ toString p.line ++ " column " ++ toString p.column
    ++ " (char " ++ toString p.offset ++ ")"

end SymbolDocs.Text
