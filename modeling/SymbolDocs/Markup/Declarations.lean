/-
Declarations: what a document type makes known.

A document type declares what entities stand for, which attributes elements have and of
which type they are, and which elements and notations there are. Some declarations may be
kept outside the text; they are never fetched, and a document that has such declarations
may refer to names that the reader does not know. Of several declarations of one name the
first counts.
-/
import SymbolDocs.Markup.Ledger
import SymbolDocs.Markup.Token
import SymbolDocs.Text.Gaps
import SymbolDocs.Text.Pieces

set_option autoImplicit false

namespace SymbolDocs.Markup

/-! ## Entities -/

/-- What a declared entity stands for. -/
inductive EntityBody where
  /-- A text given in its declaration, with character references already replaced. -/
  | inside (text : List Char)
  /-- Markup kept elsewhere, which is not fetched. -/
  | elsewhere
  /-- Data that are not markup. -/
  | data
  deriving DecidableEq, Repr

/-! ## Attributes -/

/-- The type of an attribute: what its values may say. -/
inductive AttributeType where
  /-- Any text. -/
  | text
  | identifier
  | reference
  | references
  | entity
  | entities
  | token
  | tokens
  /-- The name of a notation, out of a list. -/
  | notationName
  /-- A token out of a list. -/
  | choice
  deriving DecidableEq, Repr

/-- Whether a text is a name token: a name that may start like it goes on. -/
def isNameToken (cs : List Char) : Bool :=
  !cs.isEmpty && cs.all fun c => isNameChar c || c = ':'

/-- Whether a default value, with its gaps collapsed, is of a type. Whether it is in the
list that a type comes with is of no interest. -/
def AttributeType.admits (type : AttributeType) (value : List Char) : Bool :=
  match type with
  | .text => true
  | .identifier | .reference | .entity | .notationName => isName value
  | .references | .entities => (Text.pieces ' ' value).all isName
  | .token => isNameToken value
  | .tokens | .choice => (Text.pieces ' ' (value.dropWhile isSpace)).all isNameToken

/-- The declaration of an attribute. Names of elements and attributes are written out,
and so is a default value. -/
structure AttributeDeclaration where
  element : List Char
  name : List Char
  type : AttributeType
  default : Option (List Char)
  deriving DecidableEq, Repr

/-! ## All declarations -/

/-- The declarations of a document. -/
structure Declarations where
  /-- Whether the document declares itself free of declarations kept elsewhere. -/
  standalone : Bool
  /-- Whether there are declarations outside the text. -/
  outside : Bool
  /-- Whether a parameter entity was referred to. -/
  parametersUsed : Bool
  entities : List (List Char × EntityBody)
  parameters : List (List Char × EntityBody)
  /-- The bytes that parameter entities stand for, as far as they were read. -/
  parameterSizes : List (List Char × Nat)
  elements : List (List Char)
  notations : List (List Char)
  attributes : List AttributeDeclaration
  deriving DecidableEq, Repr

namespace Declarations

/-- No declarations. -/
def empty (standalone : Bool) : Declarations :=
  { standalone := standalone, outside := false, parametersUsed := false, entities := []
    parameters := [], parameterSizes := [], elements := [], notations := []
    attributes := [] }

/-- Whether there may be declarations the reader does not see, so that an unknown name is
no fault. -/
def areTolerant (d : Declarations) : Bool :=
  (d.outside || d.parametersUsed) && !d.standalone

/-- Takes a reference to an unknown name into account. -/
def meetUnknown (d : Declarations) : Reading Unit :=
  if d.areTolerant then Reading.remark else throw .undeclaredEntity

/-- Whether an entity of this name was declared. -/
def knows (d : Declarations) (name : List Char) : Bool :=
  (d.entities.lookup name).isSome

/-- The declaration of an attribute of an element. -/
def attribute? (d : Declarations) (element name : List Char) : Option AttributeDeclaration :=
  d.attributes.find? fun a => a.element = element && a.name = name

/-- Whether the gaps in an attribute value are to be collapsed. They are unless the
attribute may say any text. -/
def collapsesGaps (d : Declarations) (element name : QName) : Bool :=
  match d.attribute? element.print name.print with
  | some a => a.type ≠ .text
  | none => false

/-- Whether an attribute holds the identifier of its element. Only those of a proper name
do. -/
def identifies (d : Declarations) (element name : QName) : Bool :=
  match d.attribute? element.print name.print with
  | some a => a.type = .identifier && QName.split name.print = name
  | none => false

/-- The attributes of an element that have default values, in order. -/
def defaults (d : Declarations) (element : QName) : List (QName × List Char) :=
  d.attributes.filterMap fun a =>
    if QName.split a.element = element then a.default.map fun value => (QName.split a.name, value)
    else none

/-! ### Adding declarations -/

/-- Binds a name unless it is bound: the first declaration counts. -/
def bindFirst {α : Type} (name : List Char) (a : α) (bound : List (List Char × α)) :
    List (List Char × α) :=
  if (bound.lookup name).isSome then bound else bound ++ [(name, a)]

/-- Whether an entity declared so stands for another character than every document lets
it stand for. Those characters may be declared by a reference in as few digits as it needs
or, where they open no markup, by themselves. -/
def isMisdeclared (name : List Char) (body : EntityBody) : Bool :=
  match predefined.lookup name, body with
  | none, _ => false
  | some c, .inside text =>
    !((text = [c] && c ≠ '&' && c ≠ '<')
      || text = "&#".toList ++ Nat.toDigits 10 c.toNat ++ [';']
      || (text.take 3 = "&#x".toList
        && (text.drop 3).map Char.toLower = Nat.toDigits 16 c.toNat ++ [';']))
  | some _, _ => true

/-- Declares an entity. A character that stands for itself in every document goes on
doing so; declaring it otherwise is remarked on. -/
def addEntity (d : Declarations) (name : List Char) (body : EntityBody) :
    Reading Declarations := do
  if isMisdeclared name body then
    Reading.remark
    return d
  else return { d with entities := bindFirst name body d.entities }

def addParameter (d : Declarations) (name : List Char) (body : EntityBody) : Declarations :=
  { d with parameters := bindFirst name body d.parameters }

/-- Declares an element, which may be done once. -/
def addElement (d : Declarations) (name : List Char) : Reading Declarations := do
  Reading.expect (!d.elements.contains name) .repeatedDeclaration
  return { d with elements := name :: d.elements }

/-- Declares a notation, which may be done once. -/
def addNotation (d : Declarations) (name : List Char) : Reading Declarations := do
  Reading.expect (!d.notations.contains name) .repeatedDeclaration
  return { d with notations := name :: d.notations }

/-- The attribute that identifies elements whatever their name. -/
def identifierName : List Char := "xml:id".toList

/-- Declares an attribute. Its default value must be of its type, and no element has two
identifiers. Declaring it again is remarked on. -/
def addAttribute (d : Declarations) (a : AttributeDeclaration) : Reading Declarations := do
  Reading.expect (a.name ≠ identifierName || a.type = .identifier) .attributeType
  Reading.expect (a.default.all a.type.admits) .attributeType
  if (d.attribute? a.element a.name).isSome then
    Reading.remark
    return d
  else
    let identified := d.attributes.any fun b => b.element = a.element && b.type = .identifier
    Reading.expect (a.type ≠ .identifier || !identified) .repeatedDeclaration
    return { d with attributes := d.attributes ++ [a] }

end Declarations

end SymbolDocs.Markup
