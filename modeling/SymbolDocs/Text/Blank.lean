/-
Blank characters, and cutting them off the ends of a text.

Which characters count as blank decides three visible things: which text runs of
a discussion are mere layout, which callouts are empty, and how the details of a
collapsible section are trimmed. All three use the one class of this file. It is
wider than the four blanks of markup syntax: it holds the Unicode spaces, the
separators U+001C to U+001F and the next-line character U+0085 as well.
-/

set_option autoImplicit false

namespace SymbolDocs.Text

/-! ## The class -/

/-- The inclusive ranges of code points that are blank, in increasing order. -/
def blankRanges : List (Nat × Nat) :=
  [(0x09, 0x0D), (0x1C, 0x20), (0x85, 0x85), (0xA0, 0xA0), (0x1680, 0x1680),
   (0x2000, 0x200A), (0x2028, 0x2029), (0x202F, 0x202F), (0x205F, 0x205F),
   (0x3000, 0x3000)]

/-- Whether a character is blank: its code point lies in one of the ranges. -/
def isBlank (c : Char) : Bool :=
  blankRanges.any fun r => r.1 ≤ c.toNat && c.toNat ≤ r.2

/-- Whether a text holds nothing but blanks. The empty text is blank. -/
def allBlank (cs : List Char) : Bool :=
  cs.all isBlank

/-! ## Trimming -/

/-- A text without the blanks it ends in. -/
def trimEnd (cs : List Char) : List Char :=
  (cs.reverse.dropWhile isBlank).reverse

/-- A text without the blanks it begins with and those it ends in. Blanks
between two other characters stay. -/
def trim (cs : List Char) : List Char :=
  trimEnd (cs.dropWhile isBlank)

/-- A text with the blanks at both ends cut off. -/
def trimmed (s : String) : String :=
  String.ofList (trim s.toList)

/-- Whether a string holds nothing but blanks. -/
def isBlankText (s : String) : Bool :=
  allBlank s.toList

/-! ## The laws the rest relies on -/

theorem allBlank_nil : allBlank [] = true := rfl

theorem allBlank_cons (c : Char) (cs : List Char) :
    allBlank (c :: cs) = (isBlank c && allBlank cs) := rfl

theorem allBlank_append (as bs : List Char) :
    allBlank (as ++ bs) = (allBlank as && allBlank bs) := by
  simp [allBlank, List.all_append]

end SymbolDocs.Text
