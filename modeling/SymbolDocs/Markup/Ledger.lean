/-
What reading comes across besides the tree.

Not everything that is wrong with a text ends its reading. Some of it is noted, and the
last note decides in the end whether the text is refused. A ledger holds the notes so
far, the identifiers that elements were given, and what was found out about entities:
how much text they add, whether they may stand in an attribute, and in which way their
text was read. Steps that may fail and that write to the ledger are readings.
-/
import SymbolDocs.Markup.Fault
import SymbolDocs.Markup.Name

set_option autoImplicit false

namespace SymbolDocs.Markup

/-! ## Notes -/

/-- What is noted about a place where reading goes on. -/
inductive Note where
  /-- Something unusual that has no consequence by itself. -/
  | remark
  /-- Something wrong. -/
  | complaint (fault : Fault)
  deriving DecidableEq, Repr

/-- The notes on a text: how many there are of each kind, and the last one. -/
structure Notes where
  remarks : Nat
  complaints : Nat
  last : Option Note
  deriving DecidableEq, Repr

namespace Notes

def none : Notes :=
  { remarks := 0, complaints := 0, last := .none }

/-- The most notes of one kind that are taken. -/
def limit : Nat := 100

/-- Takes a note, unless there are enough of its kind. -/
def add (notes : Notes) (note : Note) : Notes :=
  match note with
  | .remark =>
    if limit ≤ notes.remarks then notes
    else { notes with remarks := notes.remarks + 1, last := some .remark }
  | .complaint fault =>
    if limit ≤ notes.complaints then notes
    else { notes with complaints := notes.complaints + 1, last := some (.complaint fault) }

/-- The verdict on a text that was read to its end. Only the last note counts: a
complaint is forgiven if anything was remarked on after it. -/
def verdict (notes : Notes) : Except Fault Unit :=
  match notes.last with
  | some (.complaint fault) => .error fault
  | _ => .ok ()

end Notes

/-! ## Growth -/

/-- How far references make a text grow: the bytes that were written, and the bytes that
references stand for so far. -/
structure Growth where
  written : Nat
  added : Nat
  deriving DecidableEq, Repr

namespace Growth

/-- The least that a reference counts for. -/
def referenceCost : Nat := 20

/-- The growth that any text may have. -/
def allowance : Nat := 1000000

/-- How often a text that grows beyond the allowance may be multiplied. -/
def factor : Nat := 5

/-- Counts a reference that stands for so many bytes. -/
def charge (g : Growth) (bytes : Nat) : Except Fault Growth :=
  let added := g.added + bytes + referenceCost
  if allowance < added && g.written < added / factor then .error .growth
  else .ok { g with added := added }

end Growth

/-! ## Ledgers -/

/-- The way in which the text of an entity was first read. -/
inductive Opened where
  /-- As content, with line ends unified. -/
  | content
  /-- As part of a value, as it stands. -/
  | value
  deriving DecidableEq, Repr

/-- What reading has come across so far. -/
structure Ledger where
  notes : Notes
  /-- The growth of the text that is being read. -/
  growth : Growth
  /-- The entities that may stand in the value of an attribute. -/
  vetted : List (List Char)
  /-- The bytes that entities stand for. -/
  sizes : List (List Char × Nat)
  /-- The entities whose text was read. -/
  opened : List (List Char × Opened)
  /-- The identifiers of elements. -/
  identifiers : List (List Char)
  deriving DecidableEq, Repr

/-- The ledger before a text of so many bytes is read. -/
def Ledger.before (bytes : Nat) : Ledger :=
  { notes := .none, growth := { written := bytes, added := 0 }, vetted := [], sizes := []
    opened := [], identifiers := [] }

/-- A step of reading, which may fail and may write to the ledger. -/
abbrev Reading (α : Type) := StateT Ledger (Except Fault) α

namespace Reading

/-- Takes a note. -/
def note (n : Note) : Reading Unit :=
  modify fun ledger => { ledger with notes := ledger.notes.add n }

/-- Remarks on something unusual. -/
def remark : Reading Unit :=
  note .remark

/-- Complains of something wrong. -/
def complain (fault : Fault) : Reading Unit :=
  note (.complaint fault)

/-- Complains if a condition does not hold. -/
def expect (condition : Bool) (fault : Fault) : Reading Unit :=
  if condition then pure () else complain fault

/-- Counts a reference that stands for so many bytes. -/
def charge (bytes : Nat) : Reading Unit := do
  let ledger ← get
  let growth ← ledger.growth.charge bytes
  set { ledger with growth := growth }

/-- The bytes that an entity stands for, as far as that was found out. -/
def sizeOf (name : List Char) : Reading Nat :=
  return ((← get).sizes.lookup name).getD 0

/-- Keeps the size of an entity, unless it is known. -/
def keepSize (name : List Char) (bytes : Nat) : Reading Unit :=
  modify fun ledger =>
    if (ledger.sizes.lookup name).isSome then ledger
    else { ledger with sizes := (name, bytes) :: ledger.sizes }

/-- Marks an entity as read, unless it is marked already. -/
def markOpened (name : List Char) (way : Opened) : Reading Unit :=
  modify fun ledger =>
    if (ledger.opened.lookup name).isSome then ledger
    else { ledger with opened := (name, way) :: ledger.opened }

/-- Gives an element an identifier. It must be new and must not be empty. -/
def identify (identifier : List Char) : Reading Unit := do
  let ledger ← get
  if identifier.isEmpty || ledger.identifiers.contains identifier then complain .identifier
  else set { ledger with identifiers := identifier :: ledger.identifiers }

/-- Does something with a text of its own inside another: its growth is counted apart.
The answer comes with the bytes that the inner text stands for. -/
def within {α : Type} (text : List Char) (reading : Reading α) : Reading (α × Nat) := do
  let outer := (← get).growth
  let written := byteCount text
  modify fun ledger => { ledger with growth := { written := written, added := 0 } }
  let answer ← reading
  let size := written + (← get).growth.added
  modify fun ledger => { ledger with growth := outer }
  return (answer, size)

end Reading

end SymbolDocs.Markup
