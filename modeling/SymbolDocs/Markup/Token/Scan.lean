/-
Cutting a markup text into tokens, one character at a time.

The scanner is a machine whose state says what the characters before the current one
have begun, its `Mode`, and whether the last of them was a carriage return. A step takes
one character and may complete a token. Line ends of all kinds read as line feeds, but in
a document type they stay as they are, since the texts of entities are kept as written.
Since the machine never looks ahead, scanning a text that is put together from two parts
is scanning the first part and then, from the place it ends in, the second
(`scan_append`); this is what statements about inserted or printed markup rest on.

Texts that are being collected are held in reverse.
-/
import SymbolDocs.Markup.Target
import SymbolDocs.Markup.Token

set_option autoImplicit false

namespace SymbolDocs.Markup

/-! ## Modes -/

/-- A tag that is being read: its name, and its attributes so far in reverse. -/
structure PartialTag where
  name : QName
  attributes : List WrittenAttribute
  deriving DecidableEq, Repr

/-- An attribute value that is being read: the attribute's name, the quote that
will end the value, and its pieces so far in reverse. -/
structure PartialValue where
  tag : PartialTag
  name : QName
  quote : Char
  parts : List ValuePart
  deriving DecidableEq, Repr

/-- Where in a document type the scanner stands. Only the extent of the document
type matters here; its declarations are read from the collected text. -/
inductive DoctypeMode where
  /-- Outside quotes; `inner` tells whether the square bracket is open. -/
  | plain (inner : Bool)
  /-- After `recent` characters of the opening of a comment or instruction. -/
  | angle (inner : Bool)
  | bang (inner : Bool)
  | dash (inner : Bool)
  /-- Inside a comment, after `dashes` hyphens. -/
  | comment (inner : Bool) (dashes : Nat)
  /-- Inside an instruction, possibly after a question mark. -/
  | instruction (inner : Bool) (question : Bool)
  | quoted (inner : Bool) (quote : Char)
  deriving DecidableEq, Repr

/-- What the characters before the current one have begun. -/
inductive Mode where
  /-- Character data, after `brackets` closing square brackets, counted up to two. -/
  | content (brackets : Nat)
  /-- After an ampersand in character data. -/
  | reference (name : List Char)
  /-- After an opening angle bracket. -/
  | angle
  /-- After an opening angle bracket and an exclamation mark. -/
  | bang
  /-- After the first of the two hyphens that open a comment. -/
  | dash
  /-- In a comment, after `dashes` hyphens. -/
  | comment (text : List Char) (dashes : Nat)
  /-- In the opening of a CDATA section, of which `awaited` is still to come. -/
  | cdataOpening (awaited : List Char)
  /-- In a CDATA section, after `brackets` closing square brackets. -/
  | cdata (text : List Char) (brackets : Nat)
  /-- In the opening word of a document type, of which `awaited` is still to come. -/
  | doctypeOpening (awaited : List Char)
  | doctype (text : List Char) (place : DoctypeMode)
  /-- In the target of an instruction. -/
  | target (name : List Char)
  /-- After the target of an instruction and a question mark. -/
  | targetEnd (name : List Char)
  /-- Between the target and the data of an instruction. -/
  | dataGap (name : List Char)
  /-- In the data of an instruction, possibly after a question mark. -/
  | data (name : List Char) (text : List Char) (question : Bool)
  /-- In the name of a tag that opens an element. -/
  | tagName (name : List Char)
  /-- In a tag, after a gap. -/
  | tagGap (tag : PartialTag)
  /-- In a tag, directly after the value of an attribute. -/
  | valueEnd (tag : PartialTag)
  /-- In a tag, after a slash. -/
  | slash (tag : PartialTag)
  | attributeName (tag : PartialTag) (name : List Char)
  /-- After the name of an attribute and a gap. -/
  | attributeGap (tag : PartialTag) (name : List Char)
  /-- After the equals sign of an attribute. -/
  | equals (tag : PartialTag) (name : List Char)
  | value (partly : PartialValue)
  /-- After an ampersand in the value of an attribute. -/
  | valueReference (partly : PartialValue) (name : List Char)
  /-- In the name of an end tag. -/
  | endName (name : List Char)
  /-- After the name of an end tag and a gap. -/
  | endGap (name : List Char)
  deriving DecidableEq, Repr

/-! ## Steps -/

/-- The answer of a step: the next mode, and the token that the step completed. -/
abbrev Scanned := Except Fault (Mode × Option Token)

/-- Goes on without completing a token. -/
def goOn (mode : Mode) : Scanned :=
  .ok (mode, none)

/-- Completes a token and goes back to character data. -/
def complete (token : Token) : Scanned :=
  .ok (.content 0, some token)

/-- The qualified name that collected characters write. -/
def nameOf (collected : List Char) : Except Fault QName :=
  match QName.ofChars? collected.reverse with
  | some name => .ok name
  | none => .error .name

/-- What collected characters refer to. -/
def referenceOf (collected : List Char) : Except Fault Reference :=
  match Reference.ofChars? collected.reverse with
  | some reference => .ok reference
  | none => .error .reference

/-- The target that collected characters write. -/
def targetOf (collected : List Char) : Except Fault (List Char) := do
  let name := collected.reverse
  Target.check name
  return name

/-- The tag that was read, with its attributes in the order of the text. -/
def PartialTag.finished (tag : PartialTag) : WrittenTag :=
  { name := tag.name, attributes := tag.attributes.reverse }

/-- What follows an attribute or the name in a tag: an end of the tag, or something
else, for which `otherwise` answers. -/
def inTag (tag : PartialTag) (c : Char) (otherwise : Scanned) : Scanned :=
  if c = '>' then complete (.startTag tag.finished)
  else if c = '/' then goOn (.slash tag)
  else if isSpace c then goOn (.tagGap tag)
  else otherwise

/-- Character data go on with `c`. -/
def stepContent (brackets : Nat) (c : Char) : Scanned :=
  if c = '<' then goOn .angle
  else if c = '&' then goOn (.reference [])
  else if c = '>' && brackets = 2 then .error .sectionEnd
  else
    let brackets := if c = ']' then min (brackets + 1) 2 else 0
    .ok (.content brackets, some (.char c))

/-- A comment goes on with `c`. Two hyphens can only end it. -/
def stepComment (text : List Char) (dashes : Nat) (c : Char) : Scanned :=
  match dashes with
  | 0 => if c = '-' then goOn (.comment text 1) else goOn (.comment (c :: text) 0)
  | 1 => if c = '-' then goOn (.comment text 2) else goOn (.comment (c :: '-' :: text) 0)
  | _ => if c = '>' then complete (.comment text.reverse) else .error .comment

/-- A CDATA section goes on with `c`. Brackets are text until two of them are
followed by a closing angle bracket. -/
def stepCdata (text : List Char) (brackets : Nat) (c : Char) : Scanned :=
  if c = ']' then goOn (.cdata (c :: text) (brackets + 1))
  else if c = '>' && 2 ≤ brackets then complete (.cdata (text.drop 2).reverse)
  else goOn (.cdata (c :: text) 0)

/-- The data of an instruction go on with `c`. -/
def stepData (name text : List Char) (question : Bool) (c : Char) : Scanned :=
  if c = '>' && question then
    complete (.instruction name (some (text.drop 1).reverse))
  else goOn (.data name (c :: text) (c = '?'))

/-- A document type goes on with `c`. -/
def stepDoctype (text : List Char) (place : DoctypeMode) (c : Char) : Scanned :=
  let next (place : DoctypeMode) : Scanned := goOn (.doctype (c :: text) place)
  let plain (inner : Bool) : Scanned :=
    if c = '"' || c = '\'' then next (.quoted inner c)
    else if c = '<' then next (.angle inner)
    else if c = '[' then next (.plain true)
    else if c = ']' then next (.plain false)
    else if c = '>' && !inner then complete (.doctype text.reverse)
    else next (.plain inner)
  match place with
  | .plain inner => plain inner
  | .angle inner =>
    if c = '!' then next (.bang inner)
    else if c = '?' then next (.instruction inner false)
    else plain inner
  | .bang inner => if c = '-' then next (.dash inner) else plain inner
  | .dash inner => if c = '-' then next (.comment inner 0) else plain inner
  | .comment inner dashes =>
    if c = '-' then next (.comment inner (dashes + 1))
    else if c = '>' && 2 ≤ dashes then next (.plain inner)
    else next (.comment inner 0)
  | .instruction inner question =>
    if c = '>' && question then next (.plain inner)
    else next (.instruction inner (c = '?'))
  | .quoted inner quote => if c = quote then next (.plain inner) else next (.quoted inner quote)

/-- An attribute value goes on with `c`. White space other than the space itself
reads as a space. -/
def stepValue (partly : PartialValue) (c : Char) : Scanned :=
  if c = partly.quote then
    let done := { name := partly.name, value := partly.parts.reverse }
    goOn (.valueEnd { partly.tag with attributes := done :: partly.tag.attributes })
  else if c = '<' then .error .angleInValue
  else if c = '&' then goOn (.valueReference partly [])
  else
    let c := if isSpace c then ' ' else c
    goOn (.value { partly with parts := .char c :: partly.parts })

/-- One step of the scanner. -/
def step (mode : Mode) (c : Char) : Scanned :=
  match mode with
  | .content brackets => stepContent brackets c
  | .reference name =>
    if c = ';' then do
      match ← referenceOf name with
      | .char c => complete (.reference c)
      | .entity name => complete (.entity name)
    else goOn (.reference (c :: name))
  | .angle =>
    if c = '!' then goOn .bang
    else if c = '?' then goOn (.target [])
    else if c = '/' then goOn (.endName [])
    else goOn (.tagName [c])
  | .bang =>
    if c = '-' then goOn .dash
    else if c = '[' then goOn (.cdataOpening "CDATA[".toList)
    else if c = 'D' then goOn (.doctypeOpening "OCTYPE".toList)
    else .error .tag
  | .dash => if c = '-' then goOn (.comment [] 0) else .error .tag
  | .comment text dashes => stepComment text dashes c
  | .cdataOpening awaited =>
    match awaited with
    | [] => .error .tag
    | [d] => if c = d then goOn (.cdata [] 0) else .error .tag
    | d :: more => if c = d then goOn (.cdataOpening more) else .error .tag
  | .cdata text brackets => stepCdata text brackets c
  | .doctypeOpening awaited =>
    match awaited with
    | [] => .error .tag
    | [d] => if c = d then goOn (.doctype [] (.plain false)) else .error .tag
    | d :: more => if c = d then goOn (.doctypeOpening more) else .error .tag
  | .doctype text place => stepDoctype text place c
  | .target name =>
    if c = '?' then goOn (.targetEnd name)
    else if isSpace c then goOn (.dataGap name)
    else goOn (.target (c :: name))
  | .targetEnd name => do
    let name ← targetOf name
    if c = '>' then complete (.instruction name none) else .error .instruction
  | .dataGap name => do
    if isSpace c then goOn (.dataGap name)
    else
      let target ← targetOf name
      stepData target [] false c
  | .data name text question => stepData name text question c
  | .tagName name =>
    if c = '>' || c = '/' || isSpace c then do
      let name ← nameOf name
      inTag { name := name, attributes := [] } c (.error .tag)
    else goOn (.tagName (c :: name))
  | .tagGap tag => inTag tag c (goOn (.attributeName tag [c]))
  | .valueEnd tag => inTag tag c (.error .attribute)
  | .slash tag => if c = '>' then complete (.emptyTag tag.finished) else .error .tag
  | .attributeName tag name =>
    if c = '=' then goOn (.equals tag name)
    else if isSpace c then goOn (.attributeGap tag name)
    else goOn (.attributeName tag (c :: name))
  | .attributeGap tag name =>
    if c = '=' then goOn (.equals tag name)
    else if isSpace c then goOn (.attributeGap tag name)
    else .error .attribute
  | .equals tag name =>
    if isSpace c then goOn (.equals tag name)
    else if c = '"' || c = '\'' then do
      let name ← nameOf name
      goOn (.value { tag := tag, name := name, quote := c, parts := [] })
    else .error .attribute
  | .value partly => stepValue partly c
  | .valueReference partly name =>
    if c = ';' then do
      let part : ValuePart :=
        match ← referenceOf name with
        | .char c => .char c
        | .entity name => .entity name
      goOn (.value { partly with parts := part :: partly.parts })
    else goOn (.valueReference partly (c :: name))
  | .endName name =>
    if c = '>' then do
      let name ← nameOf name
      complete (.endTag name)
    else if isSpace c then goOn (.endGap name)
    else goOn (.endName (c :: name))
  | .endGap name =>
    if c = '>' then do
      let name ← nameOf name
      complete (.endTag name)
    else if isSpace c then goOn (.endGap name)
    else .error .tag

/-! ## Runs -/

/-- Whether line ends stay as they are. -/
def Mode.keepsLineEnds : Mode → Bool
  | .doctype _ _ => true
  | _ => false

/-- Where a scan stands: its mode, and whether a carriage return was just taken for a line
end, of which a line feed would be a part. -/
structure Place where
  mode : Mode
  returned : Bool
  deriving DecidableEq, Repr

/-- The place where the scan of a text begins. -/
def Place.start : Place :=
  { mode := .content 0, returned := false }

/-- Goes on by one character of a text. -/
def Place.advance (place : Place) (c : Char) : Except Fault (Place × Option Token) := do
  if place.mode.keepsLineEnds then
    let (mode, token) ← step place.mode c
    return ({ mode := mode, returned := false }, token)
  else if c = '\r' then
    let (mode, token) ← step place.mode '\n'
    return ({ mode := mode, returned := true }, token)
  else if c = '\n' && place.returned then
    return ({ place with returned := false }, none)
  else
    let (mode, token) ← step place.mode c
    return ({ mode := mode, returned := false }, token)

/-- Scans a text from a place on: the place it ends in, and the tokens it completes. -/
def scan (place : Place) : List Char → Except Fault (Place × List Token)
  | [] => .ok (place, [])
  | c :: rest => do
    let (place, token) ← place.advance c
    let (last, tokens) ← scan place rest
    return (last, token.toList ++ tokens)

/-- The tokens of a whole text. It must not end inside a token. -/
def tokens (text : List Char) : Except Fault (List Token) := do
  let (place, tokens) ← scan .start text
  match place.mode with
  | .content _ => return tokens
  | _ => .error .unexpectedEnd

/-- A character that ends no line makes one step of the scanner. -/
theorem Place.advance_of_mode (mode : Mode) (c : Char) (h : c ≠ '\r') :
    Place.advance { mode := mode, returned := false } c
      = (step mode c).map fun p => ({ mode := p.1, returned := false }, p.2) := by
  cases hs : step mode c <;> simp [Place.advance, h, hs, bind, Except.bind, pure,
    Except.pure, Except.map]

/-- Scanning two texts in a row is scanning the one they make together. -/
theorem scan_append (place : Place) (as bs : List Char) :
    scan place (as ++ bs) = (do
      let (middle, first) ← scan place as
      let (last, second) ← scan middle bs
      return (last, first ++ second)) := by
  induction as generalizing place with
  | nil => simp [scan, bind, Except.bind, pure, Except.pure]; cases scan place bs <;> simp
  | cons c as ih =>
    simp only [List.cons_append, scan]
    cases h : place.advance c with
    | error f => rfl
    | ok p =>
      simp only [bind, Except.bind, ih]
      cases scan p.1 as with
      | error f => rfl
      | ok q =>
        simp only [pure, Except.pure]
        cases scan q.1 bs with
        | error f => rfl
        | ok r => simp

end SymbolDocs.Markup
