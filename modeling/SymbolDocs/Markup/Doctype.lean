/-
Document types.

A document type may name declarations that are kept elsewhere, and between square
brackets it holds declarations of its own: of elements, attributes, entities and
notations, with comments, instructions and references to parameter entities among them.
Reading it puts the declarations into effect one after the other, for what a later one
may say depends on the earlier ones. A parameter entity whose text is known stands for
the declarations in it.

The text read here is what the scanner collected between the opening word of the
document type and its end, so every reader below works on a text of its own.
-/
import SymbolDocs.Markup.Entity
import SymbolDocs.Markup.Lexeme
import SymbolDocs.Markup.Target

set_option autoImplicit false

namespace SymbolDocs.Markup.Doctype

/-! ## External identifiers -/

/-- Whether a public identifier may hold the character. -/
def isPublicChar (c : Char) : Bool :=
  c.isAlphanum || " \r\n-'()+,./:=?;!*#@$_%".toList.contains c

/-- A literal of an external identifier, which is no longer than a name. -/
def identifierAt (s : List Char) : Except Fault (List Char × List Char) := do
  let (identifier, rest) ← literalAt .doctype s
  if isBearable identifier then return (identifier, rest) else .error .doctype

/-- The place that an external identifier at the start of a text names, if there is one,
and what follows it. A public identifier names none; it stands alone only where `alone`
allows it. -/
def externalAt? (alone : Bool) (s : List Char) :
    Except Fault (Option (Option (List Char) × List Char)) := do
  match after? "SYSTEM" s with
  | some rest =>
    let rest ← afterGap .doctype rest
    let (place, rest) ← identifierAt rest
    return some (some place, rest)
  | none =>
    match after? "PUBLIC" s with
    | some rest =>
      let rest ← afterGap .doctype rest
      let (identifier, rest) ← identifierAt rest
      if !identifier.all isPublicChar then .error .doctype
      else
        match afterGap .doctype rest with
        | .ok next =>
          match identifierAt next with
          | .ok (place, rest) => return some (some place, rest)
          | .error fault => if alone then return some (none, rest) else .error fault
        | .error fault => if alone then return some (none, rest) else .error fault
    | none => return none

/-- What follows the end of a declaration. -/
def afterEnd (s : List Char) : Except Fault (List Char) :=
  match skipSpace s with
  | '>' :: rest => .ok rest
  | _ => .error .doctype

/-! ## Content models -/

/-- The most groups that a content model may open at once. -/
def groupLimit : Nat := 256

/-- Where a check of a content model stands. `groups` holds, for each open group,
the separator used in it so far. -/
inductive ModelPlace where
  /-- A name or a group must come next. -/
  | operand (groups : List (Option Char))
  | name (groups : List (Option Char))
  /-- After a name or a group; `mark` tells whether an occurrence mark may follow. -/
  | operator (groups : List (Option Char)) (mark : Bool)
  deriving DecidableEq, Repr

/-- Goes on after a name or a group. All separators of one group are the same. -/
def stepOperator (groups : List (Option Char)) (mark : Bool) (c : Char) : Option ModelPlace :=
  if isSpace c then some (.operator groups false)
  else if mark && (c = '?' || c = '*' || c = '+') then some (.operator groups false)
  else
    match groups with
    | [] => none
    | used :: outer =>
      if c = ')' then some (.operator outer true)
      else if (c = '|' || c = ',') && (used = none || used = some c) then
        some (.operand (some c :: outer))
      else none

/-- Goes on with a content model by one character. -/
def stepModel (place : ModelPlace) (c : Char) : Option ModelPlace :=
  match place with
  | .operand groups =>
    if isSpace c then some (.operand groups)
    else if c = '(' then
      if groupLimit ≤ groups.length then none else some (.operand (none :: groups))
    else if groups.isEmpty then none
    else if isNameStart c || c = ':' then some (.name groups)
    else none
  | .name groups =>
    if isNameChar c || c = ':' then some (.name groups) else stepOperator groups true c
  | .operator groups mark => stepOperator groups mark c

/-- Whether a text is a content model made of element names and groups. -/
def isChildrenModel (s : List Char) : Bool :=
  match s.foldlM stepModel (.operand []) with
  | some (.operator [] _) => true
  | _ => false

/-- Whether a text is a content model that allows text, alone or among elements. -/
def isMixedModel (s : List Char) : Bool :=
  match after? "(" s with
  | none => false
  | some rest =>
    match after? "#PCDATA" (skipSpace rest) with
    | none => false
    | some rest =>
      match (strip rest).reverse with
      | '*' :: ')' :: names =>
        match Text.pieces '|' names.reverse with
        | [] => false
        | first :: others => (strip first).isEmpty && others.all fun n => isName (strip n)
      | ')' :: names => (strip names).isEmpty
      | _ => false

/-- Reads a content model up to the end of its declaration. -/
def modelAt (s : List Char) : Except Fault (List Char) :=
  let model := strip (s.takeWhile (· ≠ '>'))
  if model = "EMPTY".toList || model = "ANY".toList || isMixedModel model
      || isChildrenModel model then
    afterEnd (s.dropWhile (· ≠ '>'))
  else .error .doctype

/-! ## Types of attributes -/

/-- The words that are types of attributes, a longer one before its beginnings. -/
def typeWords : List (String × AttributeType) :=
  [("CDATA", .text), ("IDREFS", .references), ("IDREF", .reference), ("ID", .identifier),
   ("ENTITIES", .entities), ("ENTITY", .entity), ("NMTOKENS", .tokens), ("NMTOKEN", .token)]

/-- Reads a list of alternatives in round brackets. -/
def alternativesAt (isAlternative : List Char → Bool) (s : List Char) :
    Except Fault (List Char) :=
  match s with
  | '(' :: rest =>
    match rest.dropWhile (· ≠ ')') with
    | _ :: after =>
      let alternatives := Text.pieces '|' (rest.takeWhile (· ≠ ')'))
      if alternatives.all fun t => isAlternative (strip t) then .ok after
      else .error .doctype
    | [] => .error .doctype
  | _ => .error .doctype

/-- Reads the type of an attribute. -/
def typeAt (s : List Char) : Except Fault (AttributeType × List Char) :=
  match typeWords.findSome? fun word => (after? word.1 s).map fun rest => (word.2, rest) with
  | some found => .ok found
  | none =>
    match after? "NOTATION" s with
    | some rest => do
      let rest ← afterGap .doctype rest
      let rest ← alternativesAt isName rest
      return (.notationName, rest)
    | none => do
      let rest ← alternativesAt isNameToken s
      return (.choice, rest)

/-! ## Default values -/

/-- A piece of a default value, written out. -/
def writtenOut : ValuePart → List Char
  | .char c => if c = '&' then "&#38;".toList else [c]
  | .entity name => '&' :: name ++ [';']

/-- A default value from the literal in its declaration. References in it are checked
and kept, except those to unknown names. -/
def defaultValue (d : Declarations) (room : Nat) (type : AttributeType)
    (literal : List Char) : Reading (List Char) := do
  let parts ← partsInValue (spaced (Text.unifyLineEnds literal))
  (entityNames parts).forM fun name => do
    vet d room name
    if d.knows name then Reading.charge 0
  let kept := parts.filter fun part =>
    match part with
    | .char _ => true
    | .entity name => d.knows name
  let value := kept.flatMap writtenOut
  return if type = .text then value else Text.collapse (· = ' ') value

/-- Reads the default of an attribute. -/
def defaultAt (d : Declarations) (room : Nat) (type : AttributeType) (s : List Char) :
    Reading (Option (List Char) × List Char) := do
  match after? "#REQUIRED" s, after? "#IMPLIED" s with
  | some rest, _ => return (none, rest)
  | none, some rest => return (none, rest)
  | none, none =>
    let rest ←
      match after? "#FIXED" s with
      | some rest => afterGap .doctype rest
      | none => pure s
    let (literal, rest) ← literalAt .doctype rest
    let value ← defaultValue d room type literal
    return (some value, rest)

/-! ## Texts of entities -/

/-- The text of an entity from the literal in its declaration. References to characters
are replaced and references to entities are kept. A reference to a parameter entity ends
the text; its name is given back. `pending` collects, in reverse, a reference that is not
closed yet. -/
def entityLiteral (pending : Option (List Char)) :
    List Char → Except Fault (List Char × Option (List Char))
  | [] => if pending.isSome then .error .reference else .ok ([], none)
  | c :: rest =>
    let prepend (cs : List Char) (answer : List Char × Option (List Char)) :
        List Char × Option (List Char) :=
      (cs ++ answer.1, answer.2)
    match pending with
    | none =>
      if c = '%' then
        match nameAt rest with
        | .ok (name, ';' :: _) => .ok ([], some name)
        | _ => .error .reference
      else if c = '&' then entityLiteral (some []) rest
      else (entityLiteral none rest).map (prepend [c])
    | some name =>
      if c = ';' then
        let name := name.reverse
        match name with
        | '#' :: _ =>
          match Reference.ofChars? name with
          | some (.char d) => (entityLiteral none rest).map (prepend [d])
          | _ => .error .reference
        | _ =>
          if isName name then
            (entityLiteral none rest).map (prepend ('&' :: name ++ [';']))
          else .error .reference
      else entityLiteral (some (c :: name)) rest

/-- Takes the end of an entity's text at a parameter entity into account. Only one that
is not known may stand there. -/
def endAtParameter (d : Declarations) (name : Option (List Char)) : Reading Declarations := do
  match name with
  | none => return d
  | some name =>
    let d := { d with parametersUsed := true }
    if (d.parameters.lookup name).isSome then throw .reference
    else
      d.meetUnknown
      return d

/-! ## Declarations -/

/-- What follows a name that must hold no colon. One that does is complained of. -/
def colonFree (name : List Char) : Reading Unit :=
  Reading.expect (!name.contains ':') .name

/-- Reads the rest of an element declaration. -/
def elementAt (d : Declarations) (s : List Char) : Reading (Declarations × List Char) := do
  let rest ← afterGap .doctype s
  let (name, rest) ← nameAt rest
  let rest ← afterGap .doctype rest
  let rest ← modelAt rest
  return (← d.addElement name, rest)

/-- Reads attribute definitions for an element up to the end of their declaration.
`fuel` bounds their number. -/
def definitionsAt (room : Nat) (element : List Char) (fuel : Nat) (d : Declarations)
    (s : List Char) : Reading (Declarations × List Char) :=
  match fuel with
  | 0 => throw .doctype
  | fuel + 1 =>
    match skipSpace s with
    | '>' :: rest => pure (d, rest)
    | _ => do
      let rest ← afterGap .doctype s
      let (name, rest) ← nameAt rest
      let rest ← afterGap .doctype rest
      let (type, rest) ← typeAt rest
      let rest ← afterGap .doctype rest
      let (value, rest) ← defaultAt d room type rest
      let d ← d.addAttribute
        { element := element, name := name, type := type, default := value }
      definitionsAt room element fuel d rest

/-- Reads the rest of an attribute list declaration. -/
def attributesAt (room : Nat) (d : Declarations) (s : List Char) :
    Reading (Declarations × List Char) := do
  let rest ← afterGap .doctype s
  let (element, rest) ← nameAt rest
  definitionsAt room element (rest.length + 1) d rest

/-- What an entity kept elsewhere is declared as: data, if a notation follows, or else
markup. Only a general entity may be data. The name of the notation may be missing. -/
def outsideBodyAt (general : Bool) (s : List Char) :
    Except Fault (EntityBody × List Char) :=
  match after? "NDATA" (skipSpace s) with
  | none => .ok (.elsewhere, s)
  | some rest =>
    if general then do
      let _ ← afterGap .doctype s
      let rest ← afterGap .doctype rest
      match nameAt rest with
      | .ok (_, rest) => return (.data, rest)
      | .error _ => return (.data, rest)
    else .error .doctype

/-- Reads what an entity stands for. The place of one that is kept elsewhere has no
fragment. -/
def bodyAt (general : Bool) (d : Declarations) (s : List Char) :
    Reading (EntityBody × Declarations × List Char) := do
  match ← externalAt? false s with
  | some (place, rest) =>
    if (place.getD []).contains '#' then throw .doctype
    else
      let (body, rest) ← outsideBodyAt general rest
      return (body, d, rest)
  | none =>
    let (literal, rest) ← literalAt .doctype s
    let (text, cut) ← entityLiteral none literal
    let d ← endAtParameter d cut
    return (.inside text, d, rest)

/-- Reads the rest of an entity declaration. -/
def entityAt (d : Declarations) (s : List Char) : Reading (Declarations × List Char) := do
  let rest ← afterGap .doctype s
  match rest with
  | '%' :: rest =>
    let rest ← afterGap .doctype rest
    let (name, rest) ← nameAt rest
    colonFree name
    let rest ← afterGap .doctype rest
    let (body, d, rest) ← bodyAt false d rest
    let rest ← afterEnd rest
    return (d.addParameter name body, rest)
  | rest =>
    let (name, rest) ← nameAt rest
    colonFree name
    let rest ← afterGap .doctype rest
    let (body, d, rest) ← bodyAt true d rest
    let d ← d.addEntity name body
    let rest ← afterEnd rest
    return (d, rest)

/-- Reads the rest of a notation declaration. -/
def notationAt (d : Declarations) (s : List Char) : Reading (Declarations × List Char) := do
  let rest ← afterGap .doctype s
  let (name, rest) ← nameAt rest
  colonFree name
  let rest ← afterGap .doctype rest
  match ← externalAt? true rest with
  | some (_, rest) =>
    let d ← d.addNotation name
    return (d, ← afterEnd rest)
  | none => throw .doctype

/-! ## Comments and instructions -/

/-- Reads the rest of a comment. -/
def commentAt (s : List Char) : Except Fault (List Char) :=
  match cutAt? ['-', '-'] s with
  | some (_, '>' :: rest) => .ok rest
  | some _ => .error .comment
  | none => .error .unexpectedEnd

/-- Reads the rest of an instruction. -/
def instructionAt (s : List Char) : Reading (List Char) := do
  let (target, rest) ← nameAt s
  Target.check target
  Target.judge target
  match after? "?>" rest with
  | some rest => return rest
  | none =>
    let rest ← afterGap .doctype rest
    match cutAt? ['?', '>'] rest with
    | some (_, rest) => return rest
    | none => throw .unexpectedEnd

/-! ## The declarations between the brackets -/

/-- Reads a reference to a parameter entity after its percent sign. If the text of the
entity is known, `enter` takes it into account. -/
def parameterAt (enter : Declarations → List Char → List Char → Reading Declarations)
    (d : Declarations) (s : List Char) : Reading (Declarations × List Char) := do
  match ← nameAt s with
  | (name, ';' :: rest) =>
    let d := { d with parametersUsed := true }
    match d.parameters.lookup name with
    | some (.inside text) => return (← enter d name text, rest)
    | some _ => return (d, rest)
    | none =>
      d.meetUnknown
      return (d, rest)
  | _ => throw .doctype

/-- Reads one declaration, comment, instruction or reference. -/
def itemAt (room : Nat)
    (enter : Declarations → List Char → List Char → Reading Declarations)
    (d : Declarations) (s : List Char) : Reading (Declarations × List Char) :=
  match after? "<!--" s, after? "<?" s, after? "%" s, after? "<!" s with
  | some rest, _, _, _ => return (d, ← commentAt rest)
  | none, some rest, _, _ => return (d, ← instructionAt rest)
  | none, none, some rest, _ => parameterAt enter d rest
  | none, none, none, some rest =>
    match after? "ELEMENT" rest, after? "ATTLIST" rest, after? "ENTITY" rest,
        after? "NOTATION" rest with
    | some rest, _, _, _ => elementAt d rest
    | none, some rest, _, _ => attributesAt room d rest
    | none, none, some rest, _ => entityAt d rest
    | none, none, none, some rest => notationAt d rest
    | none, none, none, none => throw .doctype
  | none, none, none, none => throw .doctype

/-- Reads items up to a closing square bracket or the end. `fuel` bounds their
number. -/
def itemsAt (room : Nat)
    (enter : Declarations → List Char → List Char → Reading Declarations) (fuel : Nat)
    (d : Declarations) (s : List Char) : Reading (Declarations × List Char) :=
  match fuel with
  | 0 => throw .doctype
  | fuel + 1 =>
    match skipSpace s with
    | [] => return (d, [])
    | ']' :: rest => return (d, ']' :: rest)
    | s => do
      let (d, rest) ← itemAt room enter d s
      itemsAt room enter fuel d rest

/-- Takes the text of a parameter entity into account. It must hold whole declarations,
and what it stands for counts as growth of the text that refers to it. -/
def enterParameter (room : Nat) (d : Declarations) (name text : List Char) :
    Reading Declarations :=
  match room with
  | 0 => throw .entityDepth
  | room + 1 => do
    let ((d, rest), size) ← Reading.within text
      (itemsAt room (enterParameter room) (text.length + 1) d text)
    if rest.isEmpty then
      let sizes := Declarations.bindFirst name size d.parameterSizes
      Reading.charge ((sizes.lookup name).getD size)
      return { d with parameterSizes := sizes }
    else throw .doctype

/-- Reads the part of a document type between its square brackets, if there is one,
and its end. -/
def subsetAt (d : Declarations) (s : List Char) : Reading Declarations :=
  match s with
  | [] => return d
  | '[' :: rest => do
    let (d, rest) ← itemsAt entityLevels (enterParameter entityLevels) (rest.length + 1) d rest
    match rest with
    | ']' :: rest => if (skipSpace rest).isEmpty then return d else throw .doctype
    | _ => throw .unexpectedEnd
  | _ => throw .doctype

/-- Reads a document type: the declarations it makes known. What was found out about
entities while there could still be more declarations is of no use later. -/
def read (standalone : Bool) (text : List Char) : Reading Declarations := do
  let rest ← afterGap .doctype text
  let (_, rest) ← nameAt rest
  let rest := skipSpace rest
  let external ← externalAt? false rest
  let rest := match external with | some (_, rest) => rest | none => rest
  let d ← subsetAt { Declarations.empty standalone with outside := external.isSome }
    (skipSpace rest)
  modify fun ledger => { ledger with vetted := [], sizes := [] }
  return d

end SymbolDocs.Markup.Doctype
