/-
Entities: what references to them come to.

A reference to an entity is kept as it is in the content of elements and in most
attribute values; only in namespace declarations is it replaced. Still the text of an
entity that an attribute refers to must be fit for a value, with all that it leads to,
and the attribute's own text is what the reference stands for. Entities refer to one
another only through so many levels: `room` tells how many are left.
-/
import SymbolDocs.Markup.Declarations
import SymbolDocs.Text.Lines

set_option autoImplicit false

namespace SymbolDocs.Markup

/-! ## Pieces of a text -/

/-- The pieces of a text that may hold references. `pending` collects, in reverse,
the name of a reference that is not closed yet. -/
def textParts (pending : Option (List Char)) : List Char → Except Fault (List ValuePart)
  | [] => if pending.isSome then .error .reference else .ok []
  | c :: rest =>
    match pending with
    | none =>
      if c = '&' then textParts (some []) rest
      else (textParts none rest).map (.char c :: ·)
    | some name =>
      if c = ';' then do
        match Reference.ofChars? name.reverse with
        | some (.char d) => (textParts none rest).map (.char d :: ·)
        | some (.entity entity) => (textParts none rest).map (.entity entity :: ·)
        | none => .error .reference
      else textParts (some (c :: name)) rest

/-- The names of the entities among some pieces. -/
def entityNames (parts : List ValuePart) : List (List Char) :=
  parts.filterMap fun part =>
    match part with
    | .entity name => some name
    | .char _ => none

/-- The pieces of the text of an entity, if it is fit for a value. -/
def partsInValue (text : List Char) : Except Fault (List ValuePart) :=
  if text.contains '<' then .error .angleInValue else textParts none text

/-! ## Values that keep their references -/

/-- The most levels through which entities may refer to one another. -/
def entityLevels : Nat := 19

/-- Checks that an entity may stand in an attribute value, with all that it leads to,
and finds out how many bytes it stands for. An entity is checked once. -/
def vet (d : Declarations) (room : Nat) (name : List Char) : Reading Unit := do
  match d.entities.lookup name with
  | none => d.meetUnknown
  | some .elsewhere => throw .unusableEntity
  | some .data => throw .unusableEntity
  | some (.inside text) =>
    if (← get).vetted.contains name then return ()
    else
      match room with
      | 0 => throw .entityDepth
      | room + 1 =>
        let parts ← partsInValue text
        let names := entityNames parts
        names.forM (vet d room)
        let known := names.filter d.knows
        let sizes ← known.mapM Reading.sizeOf
        let size := byteCount text + sizes.sum + known.length * Growth.referenceCost
        Reading.keepSize name size
        modify fun ledger => { ledger with vetted := name :: ledger.vetted }

/-- Takes the references in an attribute value into account, from left to right. Those
to unknown names do not become part of the value. -/
def admitParts (d : Declarations) (room : Nat) : List ValuePart → Reading (List ValuePart)
  | [] => return []
  | .char c :: rest => return .char c :: (← admitParts d room rest)
  | .entity name :: rest => do
    vet d room name
    if d.knows name then
      Reading.charge (← Reading.sizeOf name)
      return .entity name :: (← admitParts d room rest)
    else admitParts d room rest

/-! ## Values in which references are replaced -/

/-- A text with all its white space written as spaces. -/
def spaced (text : List Char) : List Char :=
  text.map fun c => if isSpace c then ' ' else c

/-- The characters of some pieces, given those of each entity. -/
def joinParts (replace : List Char → Reading (List Char)) :
    List ValuePart → Reading (List Char)
  | [] => return []
  | .char c :: rest => return c :: (← joinParts replace rest)
  | .entity name :: rest => do
    let text ← replace name
    return text ++ (← joinParts replace rest)

/-- The text that replaces a reference in a namespace declaration. An unknown name
contributes nothing. -/
def expand (d : Declarations) (room : Nat) (name : List Char) : Reading (List Char) := do
  match d.entities.lookup name with
  | none =>
    d.meetUnknown
    return []
  | some .elsewhere => throw .unusableEntity
  | some .data => throw .unusableEntity
  | some (.inside text) =>
    match room with
    | 0 => throw .entityDepth
    | room + 1 =>
      Reading.charge (byteCount text)
      let parts ← partsInValue (spaced text)
      joinParts (expand d room) parts

/-! ## The text of a value -/

/-- Opens the entities that a value refers to, with all that they lead to, unless they
were opened before. -/
def openForValue (d : Declarations) (room : Nat) (name : List Char) : Reading Unit := do
  match d.entities.lookup name, room with
  | some (.inside text), room + 1 =>
    if ((← get).opened.lookup name).isSome then return ()
    else
      Reading.markOpened name .value
      let parts ← textParts none text
      (entityNames parts).forM (openForValue d room)
  | _, _ => return ()

/-- The characters that an entity contributes to the text of a value, given in which way
each entity was opened. -/
def entityText (d : Declarations) (opened : List (List Char × Opened)) (room : Nat)
    (name : List Char) : List Char :=
  match d.entities.lookup name, room with
  | some (.inside text), room + 1 =>
    let text :=
      match opened.lookup name with
      | some .content => Text.unifyLineEnds text
      | _ => text
    match textParts none text with
    | .ok parts =>
      parts.flatMap fun part =>
        match part with
        | .char c => [c]
        | .entity name => entityText d opened room name
    | .error _ => []
  | _, _ => []

/-- The text of a value. -/
def valueText (d : Declarations) (opened : List (List Char × Opened))
    (parts : List ValuePart) : List Char :=
  parts.flatMap fun part =>
    match part with
    | .char c => [c]
    | .entity name => entityText d opened entityLevels name

/-- The text of a value without references is the value, whatever was declared. -/
theorem valueText_map_char (d : Declarations) (opened : List (List Char × Opened))
    (cs : List Char) : valueText d opened (cs.map .char) = cs := by
  simp [valueText, List.flatMap_map]

end SymbolDocs.Markup
