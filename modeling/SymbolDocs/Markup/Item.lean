/-
The tree of a markup text, and how tokens make it.

An item is a run of text, a reference that is kept, a comment, an instruction or an
element. Characters, references to characters and CDATA sections that touch make
one run; a section without characters still makes a run, which is then empty. The
tree is put together token by token: an outline holds the elements that are open,
the innermost first, and what each of them contains so far. A reference stays in the
tree as it is, but the text it stands for is read when it is first met.
-/
import SymbolDocs.Markup.Doctype
import SymbolDocs.Markup.Namespace
import SymbolDocs.Markup.Token.Scan

set_option autoImplicit false

namespace SymbolDocs.Markup

/-- A piece of the content of an element. -/
inductive Item where
  | text (text : List Char)
  | entity (name : List Char)
  | comment (text : List Char)
  | instruction (target : List Char) (data : Option (List Char))
  | element (tag : Tag) (content : List Item)

/-- An element: its tag and its content. -/
structure Element where
  tag : Tag
  content : List Item

/-! ## Elements that are open -/

/-- An element whose end tag is still to come. Its content so far is held in
reverse, and so is a run of text that may still grow. -/
structure Frame where
  tag : Tag
  scope : Scope
  items : List Item
  run : Option (List Char)

/-- The content so far with the run of text closed, in reverse. -/
def Frame.closed (f : Frame) : List Item :=
  match f.run with
  | none => f.items
  | some run => .text run.reverse :: f.items

/-- Lets the run of text grow. A parser may refuse a run of more than ten million bytes; that
limit is left out. -/
def Frame.write (f : Frame) (text : List Char) : Frame :=
  { f with run := some (text.reverse ++ f.run.getD []) }

/-- Adds an item that is no text. -/
def Frame.add (f : Frame) (item : Item) : Frame :=
  { f with items := item :: f.closed, run := none }

/-- The element that an end tag completes. -/
def Frame.element (f : Frame) : Element :=
  { tag := f.tag, content := f.closed.reverse }

/-- A frame for an element that has just been opened in the given scope. -/
def Frame.opened (tag : Tag) (outer : Scope) : Frame :=
  { tag := tag, scope := tag.declarations ++ outer, items := [], run := none }

/-- A frame that stands for the place of a reference. Its name is empty, so no end
tag closes it, and the declarations around the reference do not reach into it. -/
def Frame.ofReference : Frame :=
  Frame.opened { name := .plain [], declarations := [], attributes := [] } []

/-! ## Outlines -/

/-- How far a document has been put together. -/
structure Outline where
  declarations : Declarations
  ledger : Ledger
  /-- Whether a document type was read. -/
  typed : Bool
  /-- The frames around the text that is being read. -/
  depth : Nat
  frames : List Frame
  root : Option Element

namespace Outline

/-- The most elements that may be open at once. -/
def depthLimit : Nat := 256

/-- An outline of nothing, for a document of so many bytes. -/
def empty (standalone : Bool) (bytes : Nat) : Outline :=
  { declarations := .empty standalone, ledger := .before bytes, typed := false, depth := 0
    frames := [], root := none }

/-- The declarations in force in the innermost open element. -/
def scope (o : Outline) : Scope :=
  match o.frames with
  | [] => []
  | f :: _ => f.scope

/-- Puts a complete element where it belongs: into the innermost open element, or,
if there is none, at the root. -/
def place (o : Outline) (frames : List Frame) (e : Element) : Outline :=
  match frames with
  | [] => { o with frames := [], root := some e }
  | f :: rest => { o with frames := f.add (.element e.tag e.content) :: rest }

/-- Lets a reading write to the ledger. -/
def after {α : Type} (o : Outline) (reading : Reading α) : Except Fault (α × Outline) := do
  let (answer, ledger) ← reading.run o.ledger
  return (answer, { o with ledger := ledger })

/-- Opens an element. Only one may be opened outside all others. -/
def openTag (room : Nat) (o : Outline) (written : WrittenTag) : Except Fault Outline := do
  if o.frames.isEmpty && o.root.isSome then .error .root
  else if depthLimit ≤ o.depth + o.frames.length then .error .depth
  else
    let setting : Setting :=
      { declarations := o.declarations, room := room, inEntity := o.depth ≠ 0 }
    let (tag, o) ← o.after (written.resolve setting o.scope)
    return { o with frames := Frame.opened tag o.scope :: o.frames }

/-- Closes the innermost open element. -/
def close (o : Outline) : Except Fault Outline :=
  match o.frames with
  | [] => .error .endTag
  | f :: rest => .ok (o.place rest f.element)

/-- Adds text to the innermost open element, however long the text is or becomes. A parser's
limit of ten million bytes for a text, a value or a comment is left out. -/
def write (o : Outline) (text : List Char) : Except Fault Outline :=
  match o.frames with
  | [] => .error .root
  | f :: rest => .ok { o with frames := f.write text :: rest }

/-- Adds an item that is no text and no element. Outside the root it has no effect. -/
def add (o : Outline) (item : Item) : Outline :=
  match o.frames with
  | [] => o
  | f :: rest => { o with frames := f.add item :: rest }

/-! ### References -/

/-- Takes a reference into account. Whatever it stands for, the reference is kept. The
text of an entity given in its declaration is read once, by `enter`, and counts as growth
each time. -/
def refer (enter : Outline → List Char → List Char → Except Fault Outline) (o : Outline)
    (name : List Char) : Except Fault Outline := do
  if o.frames.isEmpty then .error .root
  else
    match o.declarations.entities.lookup name with
    | none =>
      let (_, o) ← o.after o.declarations.meetUnknown
      return o.add (.entity name)
    | some .data => .error .unusableEntity
    | some .elsewhere =>
      let (_, o) ← o.after (Reading.charge 0)
      return o.add (.entity name)
    | some (.inside text) =>
      let o ← if (o.ledger.opened.lookup name).isSome then pure o else enter o name text
      let (_, o) ← o.after (do Reading.charge (← Reading.sizeOf name))
      return o.add (.entity name)

/-! ### Tokens -/

/-- Takes one token into account. -/
def take (room : Nat) (enter : Outline → List Char → List Char → Except Fault Outline)
    (o : Outline) (token : Token) : Except Fault Outline :=
  match token with
  | .char c => if o.frames.isEmpty && isSpace c then .ok o else o.write [c]
  | .reference c => o.write [c]
  | .cdata text => o.write text
  | .entity name => o.refer enter name
  | .comment text => .ok (o.add (.comment text))
  | .instruction target data => do
    let (_, o) ← o.after (Target.judge target)
    return o.add (.instruction target data)
  | .startTag tag => o.openTag room tag
  | .emptyTag tag => o.openTag room tag >>= close
  | .endTag name =>
    match o.frames with
    | [] => .error .endTag
    | f :: _ => if f.tag.name = name then o.close else .error .endTag
  | .doctype text =>
    if o.typed || !o.frames.isEmpty || o.root.isSome then .error .doctype
    else do
      let (declarations, o) ← o.after (Doctype.read o.declarations.standalone text)
      return { o with declarations := declarations, typed := true }

/-- Reads the text of an entity as content. It must be content by itself; what is in it
goes into the ledger and is not kept otherwise. `room` tells through how many more levels
entities may refer to one another. -/
def enter (room : Nat) (o : Outline) (name text : List Char) : Except Fault Outline :=
  match room with
  | 0 => .error .entityDepth
  | room + 1 => do
    let tokens ← tokens text
    let inner : Outline :=
      { o with depth := o.depth + o.frames.length, frames := [.ofReference], typed := true
               ledger := { o.ledger with
                           growth := { written := byteCount text, added := 0 } } }
    let inner ← tokens.foldlM (take room (enter room)) inner
    if inner.frames.length ≠ 1 then .error .unexpectedEnd
    else
      let growth := inner.ledger.growth
      let settled : Reading Unit := do
        modify fun ledger => { ledger with growth := o.ledger.growth }
        Reading.keepSize name (growth.written + growth.added)
        Reading.markOpened name .content
      let (_, inner) ← inner.after settled
      return { o with ledger := inner.ledger }

/-- Takes the tokens of a document into account, one after the other. -/
def takeAll (o : Outline) (tokens : List Token) : Except Fault Outline :=
  tokens.foldlM (take entityLevels (enter entityLevels)) o

/-- The root element of a document that is complete. -/
def finish (o : Outline) : Except Fault Element := do
  o.ledger.notes.verdict
  match o.frames, o.root with
  | [], some e => .ok e
  | [], none => .error .root
  | _, _ => .error .unexpectedEnd

theorem takeAll_append (o : Outline) (ts us : List Token) :
    o.takeAll (ts ++ us) = o.takeAll ts >>= fun o => o.takeAll us := by
  simp [takeAll, List.foldlM_append]

end Outline

end SymbolDocs.Markup
