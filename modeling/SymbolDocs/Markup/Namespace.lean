/-
Namespaces: which of them the names in a tag belong to.

A declaration binds a qualifier, or unqualified element names, to the name of a
namespace, for its element and all inside it. Resolving a tag separates its declarations
from its other attributes, checks both, and gives every attribute the namespace of its
qualifier. Attributes without qualifier belong to no namespace.

Little of what can be wrong here ends the reading: an attribute given twice under one
name does. A declaration that is not allowed is complained of and left out, and so is a
qualifier that is not bound, whose attribute then goes by its written name.
-/
import SymbolDocs.Markup.Entity
import SymbolDocs.Markup.Lexeme
import SymbolDocs.Markup.NamespaceName

set_option autoImplicit false

namespace SymbolDocs.Markup

/-- A declaration: what it binds, where no qualifier stands for unqualified element
names, and the name of the namespace. -/
structure Declaration where
  qualifier : Option (List Char)
  space : List Char
  deriving DecidableEq, Repr

/-- The declarations in force at a place, the nearest element's first, and those of
one element in the order of the text. -/
abbrev Scope := List Declaration

/-- An attribute of a resolved tag: its name as written, its namespace, its value with
the references that are kept, and the text of the value. -/
structure Attribute where
  name : QName
  space : Option (List Char)
  value : List ValuePart
  text : List Char
  deriving DecidableEq, Repr

/-- A resolved tag. -/
structure Tag where
  name : QName
  declarations : List Declaration
  attributes : List Attribute
  deriving DecidableEq, Repr

/-! ## Reserved names -/

/-- The namespace that the qualifier `xml` always stands for. -/
def xmlSpace : List Char :=
  "http://www.w3.org/XML/1998/namespace".toList

/-- The namespace of declarations, to which nothing may be bound. -/
def declarationSpace : List Char :=
  "http://www.w3.org/2000/xmlns/".toList

def xmlQualifier : List Char :=
  ['x', 'm', 'l']

def declarationWord : List Char :=
  ['x', 'm', 'l', 'n', 's']

/-! ## Looking a qualifier up -/

/-- The name that a qualifier, or unqualified element names, are bound to. The nearest
declaration counts. -/
def Scope.bound? (scope : Scope) (qualifier : Option (List Char)) : Option (List Char) :=
  if qualifier = some xmlQualifier then some xmlSpace
  else (scope.find? fun d => d.qualifier = qualifier).map (·.space)

/-- Whether the qualifier of an element's name is bound. An empty name unbinds. -/
def Scope.binds (scope : Scope) (name : QName) : Bool :=
  name.qualifier.isNone || ((scope.bound? name.qualifier).getD []) ≠ []

/-! ## Declarations of a tag -/

/-- What a name declares when an attribute has it, if it declares anything: the qualifier
it binds. -/
def QName.declares? (name : QName) : Option (Option (List Char)) :=
  match name.qualifier with
  | none => if name.part = declarationWord then some none else none
  | some q => if q = declarationWord then some (some name.part) else none

/-- Judges a declaration, and answers whether it takes effect. One that gives the
qualifier `xml` its own namespace is allowed and has none. -/
def Declaration.judge (d : Declaration) : Reading Bool := do
  match d.qualifier with
  | none =>
    if !isResourceReference d.space then Reading.complain .namespaceDeclaration
    else if !d.space.isEmpty && !isAbsolute d.space then Reading.remark
    let reserved := d.space = xmlSpace || d.space = declarationSpace
    Reading.expect (!reserved) .namespaceDeclaration
    return !reserved
  | some q =>
    if q = xmlQualifier then
      Reading.expect (d.space = xmlSpace) .namespaceDeclaration
      return false
    else if d.space = xmlSpace || q = declarationWord || d.space = declarationSpace
        || d.space.isEmpty then
      Reading.complain .namespaceDeclaration
      return false
    else
      Reading.expect (isResourceReference d.space) .namespaceDeclaration
      return true

/-- Adds a declaration to those of the same tag, which bind different qualifiers. -/
def addDeclaration (declarations : List Declaration) (d : Declaration) :
    Except Fault (List Declaration) :=
  if declarations.any (·.qualifier = d.qualifier) then .error .repeatedAttribute
  else .ok (declarations ++ [d])

/-! ## Attributes as they are written -/

/-- Where a tag is read: what was declared, how many levels of entities are left, and
whether the tag is in the text of an entity. -/
structure Setting where
  declarations : Declarations
  room : Nat
  inEntity : Bool

/-- The attributes of a tag so far: its declarations and its other attributes, which are
not resolved yet. -/
structure Sorted where
  declarations : List Declaration
  others : List WrittenAttribute
  deriving DecidableEq, Repr

/-- The words that the attribute `xml:space` may say. -/
def spaceWords : List (List Char) :=
  ["default".toList, "preserve".toList]

/-- The name of the attribute that tells whether white space matters. -/
def spaceName : QName :=
  { qualifier := some xmlQualifier, part := "space".toList }

/-- Whether a part of a value is a space. -/
def isGapPart (part : ValuePart) : Bool :=
  part = .char ' '

/-- Reads an attribute of an element and sorts it in. -/
def Sorted.take (setting : Setting) (element : QName) (sorted : Sorted)
    (a : WrittenAttribute) : Reading Sorted := do
  let d := setting.declarations
  Reading.expect a.name.isProper .name
  let collapses := d.collapsesGaps element a.name
  match a.name.declares? with
  | some qualifier =>
    let text ← joinParts (expand d setting.room) a.value
    let space := if collapses then Text.collapse (· = ' ') text else text
    let declaration : Declaration := { qualifier := qualifier, space := space }
    if ← declaration.judge then
      let declarations ← addDeclaration sorted.declarations declaration
      return { sorted with declarations := declarations }
    else return sorted
  | none =>
    let value ← admitParts d setting.room a.value
    let value := if collapses then Text.collapse isGapPart value else value
    if a.name = spaceName && !(spaceWords.map fun word => word.map .char).contains value then
      Reading.remark
    return { sorted with others := sorted.others ++ [{ name := a.name, value := value }] }

/-- Adds the declarations that the element has by default to those in its tag. -/
def addDefaults (declarations : List Declaration) :
    List (QName × List Char) → Reading (List Declaration)
  | [] => return declarations
  | (name, value) :: rest => do
    match name.declares? with
    | none => addDefaults declarations rest
    | some qualifier =>
      Reading.charge (byteCount (name.qualifier.getD [] ++ name.part ++ value))
      let kept := qualifier ≠ some xmlQualifier
        && !declarations.any (·.qualifier = qualifier)
      let added : List Declaration :=
        if kept then [{ qualifier := qualifier, space := value }] else []
      addDefaults (declarations ++ added) rest

/-! ## Attributes and their namespaces -/

/-- The namespace of an attribute. -/
def attributeSpace (scope : Scope) (name : QName) : Reading (Option (List Char)) := do
  match name.qualifier with
  | none => return none
  | some q =>
    match scope.bound? (some q) with
    | some space => return some space
    | none =>
      Reading.complain .unboundQualifier
      return none

/-- What makes two attributes of a tag the same: namespace and local part. -/
abbrev ExpandedName := Option (List Char) × List Char

/-- Names of attributes with their namespaces. -/
abbrev SpacedNames := List (QName × Option (List Char))

/-- Whether a qualifier of a name could not be resolved. -/
def isUnresolved (name : QName) (space : Option (List Char)) : Bool :=
  name.qualifier.isSome && space.isNone

/-- The first of some names that has a given expanded name. -/
def SpacedNames.find? (names : SpacedNames) (expanded : ExpandedName) : Option QName :=
  (List.find? (fun n => !isUnresolved n.1 n.2 && (n.2, n.1.part) = expanded) names).map (·.1)

/-- The names that were given before under another qualifier. The same name given twice
is a fault; a name whose qualifier could not be resolved is not looked at. -/
def repeatedNames (before : SpacedNames) : SpacedNames → Except Fault (List QName)
  | [] => .ok []
  | (name, space) :: rest => do
    let others ← repeatedNames (before ++ [(name, space)]) rest
    if isUnresolved name space then return others
    else
      match before.find? (space, name.part) with
      | none => return others
      | some first =>
        if first.qualifier = name.qualifier then .error .repeatedAttribute
        else return name :: others

/-- Whether all members of a list differ from one another. -/
def allDistinct {α : Type} [DecidableEq α] : List α → Bool
  | [] => true
  | a :: rest => !rest.contains a && allDistinct rest

/-- Checks that no attribute is given twice. Two that are the same only by their
namespaces are complained of; where there are several of these, the written names are
looked at as well. -/
def checkRepeated (names : SpacedNames) : Reading Unit := do
  let repeated ← repeatedNames [] names
  repeated.forM fun _ => Reading.complain .repeatedAttribute
  let qualified := (names.map (·.1)).filter (·.qualifier.isSome)
  if 1 < repeated.length && !allDistinct qualified then throw .repeatedAttribute

/-- Checks the attributes that an element has by default, which are not added to it,
against those in its tag. -/
def checkDefaults (scope : Scope) (names : SpacedNames) :
    List (QName × List Char) → Reading Unit
  | [] => return ()
  | (name, value) :: rest => do
    match name.declares? with
    | some _ => checkDefaults scope names rest
    | none =>
      let space ← attributeSpace scope name
      match names.find? (space, name.part) with
      | some first =>
        if first.qualifier = name.qualifier then checkDefaults scope names rest
        else
          Reading.complain .repeatedAttribute
          Reading.charge (byteCount (name.qualifier.getD [] ++ name.part ++ value))
          checkDefaults scope names rest
      | none =>
        Reading.charge (byteCount (name.qualifier.getD [] ++ name.part ++ value))
        checkDefaults scope (names ++ [(name, space)]) rest

/-! ## Identifiers -/

/-- Opens the entities of an attribute and gives its element the identifier it holds, if
it holds one. A value that refers to entities is no identifier, and an element in the text
of an entity, which may stand in several places, is given none. -/
def settle (setting : Setting) (element : QName) (name : QName)
    (space : Option (List Char)) (value : List ValuePart) : Reading Attribute := do
  let d := setting.declarations
  let names := entityNames value
  names.forM (openForValue d entityLevels)
  let text := valueText d (← get).opened value
  if names.isEmpty && !setting.inEntity then
    if name.print = Declarations.identifierName then
      Reading.expect (isSimpleName (strip text)) .identifier
      Reading.identify text
    else if !isUnresolved name space && d.identifies element name then Reading.identify text
  return { name := name, space := space, value := value, text := text }

/-! ## Resolving a tag -/

/-- Resolves a tag in the scope of the elements around it. -/
def WrittenTag.resolve (setting : Setting) (outer : Scope) (tag : WrittenTag) :
    Reading Tag := do
  Reading.expect tag.name.isProper .name
  let sorted ← tag.attributes.foldlM (Sorted.take setting tag.name)
    { declarations := [], others := [] }
  let defaults := setting.declarations.defaults tag.name
  let declarations ← addDefaults sorted.declarations defaults
  let scope := declarations ++ outer
  let spaces ← sorted.others.mapM fun a => attributeSpace scope a.name
  let names := (sorted.others.map (·.name)).zip spaces
  checkRepeated names
  checkDefaults scope names defaults
  Reading.expect (Scope.binds scope tag.name) .unboundQualifier
  let attributes ← (sorted.others.zip spaces).mapM fun a =>
    settle setting tag.name a.1.name a.2 a.1.value
  return { name := tag.name, declarations := declarations, attributes := attributes }

end SymbolDocs.Markup
