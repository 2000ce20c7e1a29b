/-
Why a markup text is refused.

Most faults end the reading of a text where they are found. Some are only complained
of, and whether the text is refused for them is decided at its end. The faults are
listed by cause, so that a statement about refusal can name the cause it means; their
wording is kept in one function.
-/

set_option autoImplicit false

namespace SymbolDocs.Markup

/-- The cause for which a markup text is refused. -/
inductive Fault where
  /-- A character that markup may not hold, written out or by reference. -/
  | character
  /-- The text ends inside a tag, a comment, a section or an open element. -/
  | unexpectedEnd
  /-- The declaration at the very start does not have its form, or asks for a
  version that is not one of 1.x. -/
  | declaration
  /-- The declared encoding is not known. -/
  | unknownEncoding
  /-- A character does not exist in the declared encoding. -/
  | undecodable
  /-- The characters of the declared encoding are not listed, and the text is not one that
  all encodings share. What others read there is left open. -/
  | untabulated
  /-- The document type is malformed or not where it may stand. -/
  | doctype
  /-- A name is missing, holds a character that names may not hold, or has a colon
  where none may be. -/
  | name
  /-- Something other than a name, a section or a comment follows an opening
  angle bracket. -/
  | tag
  /-- An attribute without value, without quotes or without a gap before it. -/
  | attribute
  /-- An opening angle bracket inside the value of an attribute. -/
  | angleInValue
  /-- Two attributes of one element have the same expanded name. -/
  | repeatedAttribute
  /-- A reference that is not closed or writes no character. -/
  | reference
  /-- A reference to an entity that was never declared. -/
  | undeclaredEntity
  /-- A reference to an entity that holds no markup, or, in the value of an
  attribute, to one that is kept elsewhere. -/
  | unusableEntity
  /-- Entities refer to one another through more levels than the reader follows, as
  they do when one refers to itself. -/
  | entityDepth
  /-- Entities stand for far more text than was written. -/
  | growth
  /-- Two hyphens inside a comment. -/
  | comment
  /-- An instruction whose target is reserved or is not followed by a gap. -/
  | instruction
  /-- The end mark of a character section outside such a section. -/
  | sectionEnd
  /-- An end tag that does not match the innermost open element. -/
  | endTag
  /-- Content beside the one root element, or none at all. -/
  | root
  /-- Elements nested more deeply than the reader follows. -/
  | depth
  /-- A qualifier that no declaration in scope binds. -/
  | unboundQualifier
  /-- A namespace declaration that binds or names what is reserved, or does not name a
  resource. -/
  | namespaceDeclaration
  /-- An identifier that is no name, or that was given before. -/
  | identifier
  /-- An element or a notation is declared twice, or an element is given two attributes
  for its identifier. -/
  | repeatedDeclaration
  /-- A default value that is not of the type of its attribute, or an attribute whose
  type is not the one its name calls for. -/
  | attributeType
  deriving DecidableEq, Repr

/-- The wording of a fault. -/
def Fault.message : Fault → String
  | .character => "character not allowed in markup"
  | .unexpectedEnd => "unexpected end of markup"
  | .declaration => "malformed markup declaration"
  | .unknownEncoding => "unknown encoding"
  | .undecodable => "input is not in the declared encoding"
  | .untabulated => "characters of the declared encoding are not listed"
  | .doctype => "malformed or misplaced document type"
  | .name => "malformed name"
  | .tag => "malformed tag"
  | .attribute => "malformed attribute"
  | .angleInValue => "opening angle bracket in attribute value"
  | .repeatedAttribute => "attribute given twice"
  | .reference => "malformed reference"
  | .undeclaredEntity => "entity not declared"
  | .unusableEntity => "entity cannot be used here"
  | .entityDepth => "entities nested too deeply"
  | .growth => "entities stand for too much text"
  | .comment => "double hyphen in comment"
  | .instruction => "malformed processing instruction"
  | .sectionEnd => "end of character section without start"
  | .endTag => "end tag does not match"
  | .root => "markup must have exactly one root element"
  | .depth => "elements nested too deeply"
  | .unboundQualifier => "namespace qualifier not bound"
  | .namespaceDeclaration => "invalid namespace declaration"
  | .identifier => "invalid or repeated identifier"
  | .repeatedDeclaration => "declaration given twice"
  | .attributeType => "default value does not fit its attribute"

end SymbolDocs.Markup
