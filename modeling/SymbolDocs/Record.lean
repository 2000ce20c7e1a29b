/-
Documentation records: what is known about one symbol.

A record is a JSON object. It may have any fields, and a field may hold any value; a
field whose value has the wrong type is as good as absent. Everything else asks for
fields through this one rule.
-/
import SymbolDocs.Json.Value

set_option autoImplicit false

namespace SymbolDocs

/-- The known fields of a record. -/
inductive Field where
  /-- The symbol's name. -/
  | name
  /-- The declaration as it was read from the code. -/
  | parsedDeclaration
  /-- The declaration as it is to be shown. -/
  | shownDeclaration
  /-- The summary. -/
  | abstract
  /-- The discussion as markup. -/
  | discussionMarkup
  /-- The discussion as a list of entries of one member each. -/
  | discussionEntries
  /-- The path of the file that declares the symbol. -/
  | filePath
  deriving DecidableEq, Repr

namespace Field

/-- All fields, in the order of the declaration. -/
def all : List Field :=
  [.name, .parsedDeclaration, .shownDeclaration, .abstract, .discussionMarkup,
   .discussionEntries, .filePath]

/-- The name of the field in a record. -/
def key : Field → String
  | .name => "name"
  | .parsedDeclaration => "parsedDeclaration"
  | .shownDeclaration => "docDeclaration"
  | .abstract => "docAbstract"
  | .discussionMarkup => "docDiscussionXML"
  | .discussionEntries => "docDiscussion"
  | .filePath => "filePath"

/-- The words of the field in capitals, as listings of all fields call it. -/
def constant : Field → String
  | .name => "NAME"
  | .parsedDeclaration => "PARSED_DECLARATION"
  | .shownDeclaration => "DOC_DECLARATION"
  | .abstract => "DOC_ABSTRACT"
  | .discussionMarkup => "DOC_DISCUSSION_XML"
  | .discussionEntries => "DOC_DISCUSSION"
  | .filePath => "FILE_PATH"

/-- The field of a name. -/
def ofKey? (key : String) : Option Field :=
  all.find? fun f => f.key = key

end Field

/-- The types that a field can be asked for. -/
inductive FieldType where
  | string
  | list
  /-- Integers, among which the truth values count. -/
  | integer
  deriving DecidableEq, Repr

/-- Whether a value has a type. A number with a point or an exponent is no integer. -/
def FieldType.holds : FieldType → Json → Bool
  | .string, .string _ => true
  | .list, .array _ => true
  | .integer, .integer _ => true
  | .integer, .bool _ => true
  | _, _ => false

/-- A documentation record, as the members of its object. -/
structure Record where
  members : List (String × Json)

namespace Record

/-- The value of a field, if it has one of the given type. -/
def get? (r : Record) (type : FieldType) (field : Field) : Option Json :=
  (r.members.lookup field.key).filter type.holds

/-- The text of a field. -/
def string? (r : Record) (field : Field) : Option String :=
  (r.get? .string field).bind Json.asString?

/-- The text of a field, unless it is empty. -/
def nonEmpty? (r : Record) (field : Field) : Option String :=
  (r.string? field).filter fun s => !s.isEmpty

/-- The list of a field. -/
def list? (r : Record) (field : Field) : Option (List Json) :=
  (r.get? .list field).bind Json.asArray?

/-- The record that a value is. -/
def ofJson? (value : Json) : Option Record :=
  value.asObject?.map Record.mk

end Record

end SymbolDocs
