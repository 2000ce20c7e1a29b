/-
Small readers: what a text starts with, and what follows it.

The declaration that may open a document and its document type are read with these.
Each answers the part that was read together with the rest of the text; those that
can fail are told which fault a failure is.
-/
import SymbolDocs.Markup.Fault
import SymbolDocs.Markup.Name

set_option autoImplicit false

namespace SymbolDocs.Markup

def skipSpace (s : List Char) : List Char :=
  s.dropWhile isSpace

/-- A text without the white space at both ends. -/
def strip (s : List Char) : List Char :=
  (skipSpace (skipSpace s).reverse).reverse

/-- What follows a word at the start of a text. -/
def after? (word : String) (s : List Char) : Option (List Char) :=
  word.toList.isPrefixOf? s

/-- What follows a gap of at least one character. -/
def afterGap (fault : Fault) (s : List Char) : Except Fault (List Char) :=
  match s with
  | c :: rest => if isSpace c then .ok (skipSpace rest) else .error fault
  | [] => .error fault

/-- A name at the start of a text; colons count as letters. -/
def nameAt (s : List Char) : Except Fault (List Char × List Char) :=
  let inName (c : Char) : Bool := isNameChar c || c = ':'
  let name := s.takeWhile inName
  if isName name then .ok (name, s.dropWhile inName) else .error .name

/-- A text in quotes of either kind. -/
def literalAt (fault : Fault) (s : List Char) : Except Fault (List Char × List Char) :=
  match s with
  | quote :: rest =>
    if quote = '"' || quote = '\'' then
      match rest.dropWhile (· ≠ quote) with
      | _ :: after => .ok (rest.takeWhile (· ≠ quote), after)
      | [] => .error fault
    else .error fault
  | [] => .error fault

/-- The text before the first occurrence of `stop`, and the text after it. -/
def cutAt? (stop : List Char) : List Char → Option (List Char × List Char)
  | [] => none
  | c :: rest =>
    match stop.isPrefixOf? (c :: rest) with
    | some after => some ([], after)
    | none => (cutAt? stop rest).map fun p => (c :: p.1, p.2)

end SymbolDocs.Markup
