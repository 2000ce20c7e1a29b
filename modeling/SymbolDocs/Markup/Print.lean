/-
Markup in its written form.

An element is written with its namespace declarations first and its attributes after
them, in double quotes; it is written as one empty tag if it has no content at all.
Text hides the two angle brackets, the ampersand and the carriage return behind
references, and attribute values hide the double quote, the tab and the line feed as
well. A reference that was kept is written as it was.

An element that is written on its own is given the declarations that it would
otherwise inherit, so that the result can be read by itself. They follow its own
declarations: first those its own name and its attributes need, then all others,
nearest first; what is already bound is not bound again.
-/
import SymbolDocs.Markup.Item

set_option autoImplicit false

namespace SymbolDocs.Markup

/-! ## Text -/

/-- A character of text. -/
def textChar (c : Char) : List Char :=
  if c = '&' then "&amp;".toList
  else if c = '<' then "&lt;".toList
  else if c = '>' then "&gt;".toList
  else if c = '\r' then "&#13;".toList
  else [c]

def printText (cs : List Char) : List Char :=
  cs.flatMap textChar

/-- A character of an attribute value. -/
def valueChar (c : Char) : List Char :=
  if c = '"' then "&quot;".toList
  else if c = '\t' then "&#9;".toList
  else if c = '\n' then "&#10;".toList
  else textChar c

def printEntity (name : List Char) : List Char :=
  '&' :: name ++ [';']

def printPart : ValuePart → List Char
  | .char c => valueChar c
  | .entity name => printEntity name

/-! ## Tags -/

/-- A name, an equals sign and a value in double quotes, after a space. -/
def printPair (name value : List Char) : List Char :=
  ' ' :: name ++ '=' :: '"' :: value ++ ['"']

def printDeclaration (d : Declaration) : List Char :=
  let name : QName :=
    match d.qualifier with
    | none => { qualifier := none, part := declarationWord }
    | some q => { qualifier := some declarationWord, part := q }
  printPair name.print (d.space.flatMap valueChar)

def printAttribute (a : Attribute) : List Char :=
  printPair a.name.print (a.value.flatMap printPart)

/-- What stands in an opening tag between the angle brackets. -/
def printTag (tag : Tag) : List Char :=
  tag.name.print ++ tag.declarations.flatMap printDeclaration
    ++ tag.attributes.flatMap printAttribute

/-! ## Items -/

def printComment (text : List Char) : List Char :=
  "<!--".toList ++ text ++ "-->".toList

def printInstruction (target : List Char) (data : Option (List Char)) : List Char :=
  match data with
  | none => "<?".toList ++ target ++ "?>".toList
  | some text => "<?".toList ++ target ++ ' ' :: text ++ "?>".toList

mutual

/-- An item as it is written. -/
def Item.print : Item → List Char
  | .text text => printText text
  | .entity name => printEntity name
  | .comment text => printComment text
  | .instruction target data => printInstruction target data
  | .element tag content =>
    if content.isEmpty then '<' :: printTag tag ++ "/>".toList
    else '<' :: printTag tag ++ '>' :: printItems content
      ++ '<' :: '/' :: tag.name.print ++ ['>']

/-- The items of a list, one after the other, as they are written. -/
def printItems : List Item → List Char
  | [] => []
  | item :: rest => item.print ++ printItems rest

end

/-! ## Elements on their own -/

/-- The declaration in force for a qualifier, or for unqualified element names. -/
def inForce (scope : Scope) (qualifier : Option (List Char)) : List Declaration :=
  (scope.find? fun d => d.qualifier = qualifier).toList

/-- The declarations that a tag needs from the elements around it: the one for its own
name, unless the name belongs to no namespace, and those for its attributes. -/
def neededFrom (outer : Scope) (tag : Tag) : List Declaration :=
  let own := (inForce outer tag.name.qualifier).filter fun d => !d.space.isEmpty
  own ++ tag.attributes.flatMap fun a =>
    match a.name.qualifier with
    | none => []
    | some q => inForce outer (some q)

/-- Adds declarations one after the other, leaving out what is bound already. -/
def addDeclarations (bound added : List Declaration) : List Declaration :=
  added.foldl
    (fun bound d => if bound.any (·.qualifier = d.qualifier) then bound else bound ++ [d]) bound

/-- A tag with the declarations that it inherits made its own. -/
def Tag.selfContained (outer : Scope) (tag : Tag) : Tag :=
  { tag with
    declarations := addDeclarations tag.declarations (neededFrom outer tag ++ outer) }

/-- An item as it is written on its own, given the declarations in force around it. -/
def Item.printAlone (outer : Scope) : Item → List Char
  | .element tag content => (Item.element (tag.selfContained outer) content).print
  | item => item.print

end SymbolDocs.Markup
