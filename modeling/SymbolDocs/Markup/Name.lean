/-
The characters of markup, and names.

Markup may hold every character but most controls and two non-characters. Names
start with a letter, an ideograph or an underscore and go on with those, digits,
hyphens, points and combining marks; the ranges are those of the fifth edition of
XML 1.0. A colon is no name character here: it separates the qualifier of a
qualified name from the local part. A name whose colons do not do so is kept whole,
as a local part that holds them. No name is longer than a fixed number of bytes.
-/

set_option autoImplicit false

namespace SymbolDocs.Markup

/-! ## Characters -/

/-- Whether the code point of `c` lies in one of the inclusive ranges. -/
def inRanges (ranges : List (Nat × Nat)) (c : Char) : Bool :=
  ranges.any fun r => r.1 ≤ c.toNat && c.toNat ≤ r.2

/-- Whether markup may hold the character. -/
def isAllowed (c : Char) : Bool :=
  inRanges [(0x9, 0xA), (0xD, 0xD), (0x20, 0xD7FF), (0xE000, 0xFFFD), (0x10000, 0x10FFFF)] c

/-- The white space of markup syntax. -/
def isSpace (c : Char) : Bool :=
  c = ' ' || c = '\t' || c = '\n' || c = '\r'

/-- Whether a name without colon may start with the character. -/
def isNameStart (c : Char) : Bool :=
  inRanges
    [(0x41, 0x5A), (0x5F, 0x5F), (0x61, 0x7A), (0xC0, 0xD6), (0xD8, 0xF6), (0xF8, 0x2FF),
     (0x370, 0x37D), (0x37F, 0x1FFF), (0x200C, 0x200D), (0x2070, 0x218F), (0x2C00, 0x2FEF),
     (0x3001, 0xD7FF), (0xF900, 0xFDCF), (0xFDF0, 0xFFFD), (0x10000, 0xEFFFF)] c

/-- Whether a name without colon may hold the character after its first one. -/
def isNameChar (c : Char) : Bool :=
  isNameStart c
    || inRanges [(0x2D, 0x2E), (0x30, 0x39), (0xB7, 0xB7), (0x300, 0x36F), (0x203F, 0x2040)] c

/-! ## Names -/

/-- The bytes of a text in UTF-8. -/
def byteCount (text : List Char) : Nat :=
  text.foldl (fun n c => n + c.utf8Size) 0

/-- The most bytes that a name may have. -/
def nameLimit : Nat := 50000

/-- Whether a text is no longer than names may be. -/
def isBearable (cs : List Char) : Bool :=
  byteCount cs ≤ nameLimit

/-- Whether a text is a name without colon. -/
def isSimpleName : List Char → Bool
  | [] => false
  | c :: rest => isNameStart c && rest.all isNameChar && isBearable (c :: rest)

/-- Whether a text is a name in which colons count as letters. -/
def isName : List Char → Bool
  | [] => false
  | c :: rest =>
    (isNameStart c || c = ':') && (rest.all fun d => isNameChar d || d = ':')
      && isBearable (c :: rest)

/-- A name as written in a tag: a local part, and before it possibly a qualifier
and a colon. -/
structure QName where
  qualifier : Option (List Char)
  part : List Char
  deriving DecidableEq, Repr

namespace QName

/-- A qualified name as it is written. -/
def print (n : QName) : List Char :=
  match n.qualifier with
  | none => n.part
  | some q => q ++ ':' :: n.part

/-- A text as the local part of a name without qualifier. -/
def plain (cs : List Char) : QName :=
  { qualifier := none, part := cs }

/-- A text cut at its first colon, unless it starts with that. -/
def split (cs : List Char) : QName :=
  match cs.takeWhile (· ≠ ':'), cs.dropWhile (· ≠ ':') with
  | c :: qualifier, _ :: part => { qualifier := some (c :: qualifier), part := part }
  | _, _ => plain cs

/-- Whether the colons of a name only separate a qualifier from a local part. -/
def isProper (n : QName) : Bool :=
  !n.part.contains ':'

/-- The name that a text writes, if it writes one: with a qualifier, if it consists of
two simple names with a colon between them, or else as a whole. -/
def ofChars? (cs : List Char) : Option QName :=
  let cut := split cs
  if isSimpleName (cut.qualifier.getD []) && isSimpleName cut.part then some cut
  else if isName cs then some (plain cs)
  else none

end QName

end SymbolDocs.Markup
