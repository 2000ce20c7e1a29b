/-
Loading records from a file.

The bytes of the file must be UTF-8, the text a JSON list, and every item an object.
Almost every fault is a matter for the user and is reported as such. Three are not
expected by those who load records and are passed on as they are: a path that no file
can have, bytes that are not UTF-8, and a text beyond the limits of the reader.
-/
import SymbolDocs.CommandLine.Files
import SymbolDocs.Json.Reader
import SymbolDocs.Record
import SymbolDocs.Text.Utf8

set_option autoImplicit false

namespace SymbolDocs.CommandLine

/-- Why records cannot be loaded. -/
inductive LoadFault where
  | unreadable (path : Path) (fault : FileFault)
  | undecodable (fault : Text.Utf8.Fault)
  /-- The text is no JSON, or its reader goes no further. -/
  | malformed (path : Path) (fault : Json.Fault)
  | notList (path : Path)
  /-- The item with this index is no object. -/
  | notObject (path : Path) (index : Nat)
  deriving DecidableEq, Repr

namespace LoadFault

/-- Whether the fault is reported to the user, and not passed on. -/
def isReported : LoadFault → Bool
  | .unreadable _ fault => fault.isReported
  | .undecodable _ => false
  | .malformed _ fault => !fault.cause.isLimit
  | .notList _ => true
  | .notObject _ _ => true

/-- What is told about a file that cannot be read, for the given reason. -/
def aboutFile (path : Path) (reason : String) : String :=
  "Cannot read records from " ++ path.text ++ ": " ++ reason

/-- The wording of a fault. One that is passed on is told without the file. -/
def message (fault : LoadFault) : String :=
  let place (path : Path) (reason : String) : String :=
    if fault.isReported then aboutFile path reason else reason
  match fault with
  | .unreadable path cause => place path (cause.message path)
  | .undecodable cause => cause.message
  | .malformed path cause => place path cause.message
  | .notList path => path.text ++ ": expected a JSON list of records"
  | .notObject path index => path.text ++ ": record " ++ toString index ++ " is not an object"

end LoadFault

/-- The records that the items of a list are, the first of which has the given index. -/
def recordsFrom (path : Path) (index : Nat) : List Json → Except LoadFault (List Record)
  | [] => .ok []
  | item :: rest =>
    match Record.ofJson? item with
    | some record => (recordsFrom path (index + 1) rest).map (record :: ·)
    | none => .error (.notObject path index)

/-- The records in the content of a file, or in what reading the file came to, with `lone` for
each surrogate that is left alone. -/
def recordsWith (lone : Char) (path : Path) (content : Except FileFault (List UInt8)) :
    Except LoadFault (List Record) := do
  let bytes ← content.mapError (.unreadable path)
  let chars ← (Text.Utf8.decode bytes).mapError .undecodable
  match ← (Json.parseWith lone (Text.unifyLineEnds chars)).mapError (.malformed path) with
  | .array items => recordsFrom path 0 items
  | _ => .error (.notList path)

/-- The records in the content of a file, or in what reading the file came to. -/
def recordsOf (path : Path) (content : Except FileFault (List UInt8)) :
    Except LoadFault (List Record) :=
  recordsWith Json.standIn path content

/-- The records in the file at a path of a tree. -/
def load (tree : FileTree) (path : Path) : Except LoadFault (List Record) :=
  recordsOf path (tree.read path)

end SymbolDocs.CommandLine
