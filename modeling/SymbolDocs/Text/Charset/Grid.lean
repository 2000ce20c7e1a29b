/-
Grids of characters, for sets that give a character two numbers.

A grid is written as its rows, from the first to the last that holds anything. A row
may end early, and a place without a character is held open by U+FFFD.
-/

set_option autoImplicit false

namespace SymbolDocs.Text

/-- The characters of a set in rows and columns, both counted from zero. -/
abbrev Grid := List String

/-- What holds open a place without a character. -/
def Grid.vacant : Char := '\ufffd'

/-- The character at a place of a row. -/
def Grid.charAt? (row : String) (column : Nat) : Option Char :=
  row.toList[column]?.filter (· != Grid.vacant)

/-- The character in a row and a column. -/
def Grid.cell? (grid : Grid) (row column : Nat) : Option Char :=
  grid[row]? >>= fun text => Grid.charAt? text column

/-- No place is held open in an answer. -/
theorem Grid.charAt?_ne_vacant {row : String} {column : Nat} {c : Char}
    (h : Grid.charAt? row column = some c) : c ≠ Grid.vacant := by
  simp only [Grid.charAt?, Option.filter_eq_some_iff] at h
  simpa using h.2

end SymbolDocs.Text
