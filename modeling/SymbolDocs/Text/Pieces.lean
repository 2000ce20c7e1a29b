/-
The pieces of a text between the occurrences of a character.

There is always one more piece than there are separators, so a text without any is its
own only piece, and pieces may be empty. Put together again with the separator between
them, they are the text (`join_pieces`).
-/

set_option autoImplicit false

namespace SymbolDocs.Text

/-- The pieces of a text. -/
def pieces (separator : Char) : List Char → List (List Char)
  | [] => [[]]
  | c :: rest =>
    if c = separator then [] :: pieces separator rest
    else
      match pieces separator rest with
      | [] => [[c]]
      | first :: others => (c :: first) :: others

/-- Pieces with a separator between each two of them. -/
def join (separator : Char) : List (List Char) → List Char
  | [] => []
  | [piece] => piece
  | piece :: rest => piece ++ separator :: join separator rest

theorem pieces_ne_nil (separator : Char) (cs : List Char) : pieces separator cs ≠ [] := by
  cases cs with
  | nil => simp [pieces]
  | cons c rest =>
    rw [pieces]
    split
    · simp
    · split <;> simp

/-- Putting the pieces of a text together gives the text back. -/
theorem join_pieces (separator : Char) (cs : List Char) :
    join separator (pieces separator cs) = cs := by
  induction cs with
  | nil => rfl
  | cons c rest ih =>
    cases h : pieces separator rest with
    | nil => exact absurd h (pieces_ne_nil separator rest)
    | cons first others =>
      rw [h] at ih
      by_cases hc : c = separator
      · rw [pieces, if_pos hc, h, join, ih, List.nil_append, hc]
        exact List.cons_ne_nil _ _
      · rw [pieces, if_neg hc, h]
        cases others with
        | nil =>
          rw [join] at ih
          rw [join, ih]
        | cons second more =>
          rw [join] at ih
          · rw [join, List.cons_append, ih]
            exact List.cons_ne_nil _ _
          · exact List.cons_ne_nil _ _

/-! ## Pieces of texts put together -/

section Append

variable {separator : Char}

/-- A text without separators is its own only piece, and only such a text is. -/
theorem tail_pieces_eq_nil_iff {cs : List Char} :
    (pieces separator cs).tail = [] ↔ separator ∉ cs := by
  induction cs with
  | nil => simp [pieces]
  | cons c rest ih =>
    rw [List.mem_cons, not_or, ← ih, pieces]
    split
    · rename_i hc
      simp [hc, pieces_ne_nil]
    · rename_i hc
      cases hrest : pieces separator rest with
      | nil => exact absurd hrest (pieces_ne_nil separator rest)
      | cons first others => simp [Ne.symm hc]

/-- At a separator a text falls apart. -/
theorem pieces_append (as bs : List Char) :
    pieces separator (as ++ separator :: bs) = pieces separator as ++ pieces separator bs := by
  induction as with
  | nil => simp [pieces]
  | cons c rest ih =>
    rw [List.cons_append, pieces, pieces, ih]
    split
    · rfl
    · cases hrest : pieces separator rest with
      | nil => exact absurd hrest (pieces_ne_nil separator rest)
      | cons first others => rfl

/-- What stands before the first separator is no matter to the pieces after it. -/
theorem tail_pieces_append {as : List Char} (h : separator ∉ as) (bs : List Char) :
    (pieces separator (as ++ bs)).tail = (pieces separator bs).tail := by
  induction as with
  | nil => rfl
  | cons c rest ih =>
    rw [List.mem_cons, not_or] at h
    rw [List.cons_append, pieces, if_neg (Ne.symm h.1), ← ih h.2]
    cases hrest : pieces separator (rest ++ bs) with
    | nil => exact absurd hrest (pieces_ne_nil separator _)
    | cons first others => rfl

theorem join_append {as bs : List (List Char)} (ha : as ≠ []) (hb : bs ≠ []) :
    join separator (as ++ bs) = join separator as ++ separator :: join separator bs := by
  induction as with
  | nil => exact absurd rfl ha
  | cons a rest ih =>
    cases rest with
    | nil =>
      cases bs with
      | nil => exact absurd rfl hb
      | cons b more => rfl
    | cons second more =>
      show a ++ separator :: join separator (second :: more ++ bs)
        = a ++ separator :: join separator (second :: more) ++ separator :: join separator bs
      rw [ih (List.cons_ne_nil second more), List.append_assoc, List.cons_append]

end Append

end SymbolDocs.Text
