/-
Paths and files.

A path is shown without empty and single-dot components; components of two dots stay,
because what they lead to depends on the files. A file tree is a set of files under
one directory: a directory exists if a file lies inside it, and the top directory
always exists. Nothing outside the top directory is known.
-/
import SymbolDocs.Text.Pieces
import SymbolDocs.Text.Quoted

set_option autoImplicit false

namespace SymbolDocs.CommandLine

/-! ## Paths -/

/-- A path: its root, which is empty for a relative one, and its components. -/
structure Path where
  root : String
  parts : List String
  deriving DecidableEq, Repr

namespace Path

/-- The root that leading slashes write: two of them are kept, more count as one. -/
def rootOf (cs : List Char) : String :=
  match (cs.takeWhile (· = '/')).length with
  | 0 => ""
  | 2 => "//"
  | _ => "/"

/-- The path that a text writes. -/
def ofString (s : String) : Path :=
  let cs := s.toList
  { root := rootOf cs
    parts := ((Text.pieces '/' cs).filter fun p => !p.isEmpty && p ≠ ['.']).map String.ofList }

/-- How a path is shown. The path without components is the current directory. -/
def text (p : Path) : String :=
  if p.root.isEmpty && p.parts.isEmpty then "."
  else p.root ++ String.intercalate "/" p.parts

end Path

/-! ## Faults -/

/-- Why a file cannot be read or written. -/
inductive FileFault where
  | notFound
  | isDirectory
  | notDirectory
  /-- A name, or the whole path, is longer than the system allows. -/
  | tooLong
  /-- The path holds the character U+0000, so that no file can have it. -/
  | nullCharacter
  deriving DecidableEq, Repr

namespace FileFault

/-- The wording of a fault at a path. -/
def message (f : FileFault) (path : Path) : String :=
  match f with
  | .notFound => "[Errno 2] No such file or directory: " ++ Text.quoted path.text
  | .isDirectory => "[Errno 21] Is a directory: " ++ Text.quoted path.text
  | .notDirectory => "[Errno 20] Not a directory: " ++ Text.quoted path.text
  | .tooLong => "[Errno 36] File name too long: " ++ Text.quoted path.text
  | .nullCharacter => "embedded null byte"

/-- Whether the system itself reports the fault. A path that no file can have is
refused before the system is asked. -/
def isReported : FileFault → Bool
  | .nullCharacter => false
  | _ => true

end FileFault

/-! ## File trees -/

/-- Files by the components of their paths. -/
abbrev FileTree := List (List String × List UInt8)

namespace FileTree

/-- Whether a file lies inside a directory. -/
def isDirectory (tree : FileTree) (place : List String) : Bool :=
  place.isEmpty
    || tree.any fun f => place.isPrefixOf f.1 && place.length < f.1.length

/-- What a path leads to. -/
inductive Target where
  | file (place : List String) (bytes : List UInt8)
  | directory (place : Option (List String))
  /-- A file that could be made: the directory it would lie in exists. -/
  | free (place : List String)
  | missing
  /-- A component that is no directory is gone through. -/
  | blocked
  /-- A component, or the whole path, is too long. -/
  | tooLong
  /-- No file can have the path. -/
  | impossible
  deriving DecidableEq, Repr

/-- The most bytes of a component. -/
def nameLimit : Nat := 255

/-- The most bytes of a path. -/
def pathLimit : Nat := 4095

/-- Follows components from a directory on; no directory stands for one outside the
tree. -/
def follow (tree : FileTree) (place : Option (List String)) : List String → Target
  | [] => .directory place
  | ".." :: rest =>
    follow tree (place.bind fun p => if p.isEmpty then none else some p.dropLast) rest
  | part :: rest =>
    match place with
    | none => .missing
    | some place =>
      let next := place ++ [part]
      match tree.lookup next with
      | some bytes => if rest.isEmpty then .file next bytes else .blocked
      | none =>
        if nameLimit < part.utf8ByteSize then .tooLong
        else if isDirectory tree next then follow tree (some next) rest
        else if rest.isEmpty then .free next
        else .missing

/-- What a path leads to. A path with a root leads outside. -/
def target (tree : FileTree) (path : Path) : Target :=
  if path.text.toList.contains '\x00' then .impossible
  else if pathLimit < path.text.utf8ByteSize then .tooLong
  else follow tree (if path.root.isEmpty then some [] else none) path.parts

/-- The bytes of the file at a path. -/
def read (tree : FileTree) (path : Path) : Except FileFault (List UInt8) :=
  match target tree path with
  | .file _ bytes => .ok bytes
  | .directory _ => .error .isDirectory
  | .free _ => .error .notFound
  | .missing => .error .notFound
  | .blocked => .error .notDirectory
  | .tooLong => .error .tooLong
  | .impossible => .error .nullCharacter

/-- Gives a file its bytes. -/
def put (place : List String) (bytes : List UInt8) : FileTree → FileTree
  | [] => [(place, bytes)]
  | (other, old) :: rest =>
    if other = place then (place, bytes) :: rest else (other, old) :: put place bytes rest

/-- The tree after writing a file at a path. -/
def write (tree : FileTree) (path : Path) (bytes : List UInt8) : Except FileFault FileTree :=
  match target tree path with
  | .file place _ => .ok (put place bytes tree)
  | .free place => .ok (put place bytes tree)
  | .directory _ => .error .isDirectory
  | .missing => .error .notFound
  | .blocked => .error .notDirectory
  | .tooLong => .error .tooLong
  | .impossible => .error .nullCharacter

/-- The files of a tree that an earlier one did not have, or had with other bytes. -/
def changedSince (earlier later : FileTree) : FileTree :=
  later.filter fun f => earlier.lookup f.1 ≠ some f.2

end FileTree

end SymbolDocs.CommandLine
