/-
The tokens of a markup text.

A markup text is a sequence of characters, references, sections, comments,
instructions and tags. Character data stay single characters here; which of them
form one run of text is a question of the tree, not of the tokens. Nothing is
resolved yet: names keep their qualifiers, and references to entities their names.
-/
import SymbolDocs.Markup.Name
import SymbolDocs.Text.Digit

set_option autoImplicit false

namespace SymbolDocs.Markup

/-- A piece of an attribute value: a character, or a reference to an entity. -/
inductive ValuePart where
  | char (c : Char)
  | entity (name : List Char)
  deriving DecidableEq, Repr

/-- An attribute as it is written in a tag. -/
structure WrittenAttribute where
  name : QName
  value : List ValuePart
  deriving DecidableEq, Repr

/-- A tag that opens an element, as it is written. -/
structure WrittenTag where
  name : QName
  attributes : List WrittenAttribute
  deriving DecidableEq, Repr

/-- A token of a markup text. -/
inductive Token where
  /-- A character of text, standing for itself. -/
  | char (c : Char)
  /-- A character of text, written by a reference. -/
  | reference (c : Char)
  /-- A CDATA section: text in which nothing is markup. -/
  | cdata (text : List Char)
  /-- A reference to an entity other than the five that stand for characters. -/
  | entity (name : List Char)
  | comment (text : List Char)
  /-- An instruction. One without data differs from one whose data are empty. -/
  | instruction (target : List Char) (data : Option (List Char))
  | startTag (tag : WrittenTag)
  | emptyTag (tag : WrittenTag)
  | endTag (name : QName)
  /-- A document type, with the text between its opening word and its end. -/
  | doctype (text : List Char)
  deriving DecidableEq, Repr

/-! ## References -/

/-- The entities that stand for one character each in every document. -/
def predefined : List (List Char × Char) :=
  [("amp".toList, '&'), ("lt".toList, '<'), ("gt".toList, '>'), ("quot".toList, '"'),
   ("apos".toList, '\'')]

/-- What a reference stands for. -/
inductive Reference where
  | char (c : Char)
  | entity (name : List Char)
  deriving DecidableEq, Repr

/-- The value of a digit in a base of at most sixteen. -/
def digit? (base : Nat) (c : Char) : Option Nat :=
  (Text.hexValue? c).filter (· < base)

/-- The number that digits write, cut off beyond the last code point, so that a long
run of digits costs no more than a short one. -/
def codePoint? (base : Nat) (ds : List Char) : Option Nat :=
  if ds.isEmpty then none
  else ds.foldlM (fun n c => (digit? base c).map fun d => min (n * base + d) 0x110000) 0

/-- The character that a code point names, if markup may hold it. -/
def allowedChar? (n : Nat) : Option Char :=
  if n.isValidChar then
    let c := Char.ofNat n
    if isAllowed c then some c else none
  else none

/-- What the text between the ampersand and the semicolon of a reference stands
for. -/
def Reference.ofChars? (cs : List Char) : Option Reference :=
  match cs with
  | '#' :: 'x' :: ds => (codePoint? 16 ds >>= allowedChar?).map .char
  | '#' :: ds => (codePoint? 10 ds >>= allowedChar?).map .char
  | _ =>
    if isName cs then
      match predefined.lookup cs with
      | some c => some (.char c)
      | none => some (.entity cs)
    else none

end SymbolDocs.Markup
