/-
Names of namespaces.

A namespace is to be named by a reference to a resource, and one that stands for
unqualified names by an absolute one. The check follows the generic
syntax of such references: an optional scheme, then either an authority after two
slashes and a path, or a path alone, then an optional query and an optional
fragment. Only ASCII characters occur; anything else has to be written in percent
form. Each reader answers what follows the part it reads.
-/
import SymbolDocs.Text.Digit

set_option autoImplicit false

namespace SymbolDocs.Markup

/-! ## Characters -/

/-- Whether `c` is among the characters of a word. -/
def oneOf (word : String) (c : Char) : Bool :=
  word.toList.contains c

/-- Characters that stand for themselves everywhere in a reference. -/
def isUnreserved (c : Char) : Bool :=
  c.isAlphanum || oneOf "-._~" c

/-- Characters that some parts of a reference use as separators. -/
def isSubDelimiter (c : Char) : Bool :=
  oneOf "!$&'()*+,;=" c

def isHexDigit (c : Char) : Bool :=
  (Text.hexValue? c).isSome

/-- Characters of a path segment. -/
def isPathChar (c : Char) : Bool :=
  isUnreserved c || isSubDelimiter c || c = ':' || c = '@'

/-- What follows the longest beginning that is made of characters of a class and percent
forms. -/
def afterMadeOf (ok : Char → Bool) : List Char → List Char
  | [] => []
  | '%' :: a :: b :: rest =>
    if isHexDigit a && isHexDigit b then afterMadeOf ok rest else '%' :: a :: b :: rest
  | c :: rest => if ok c then afterMadeOf ok rest else c :: rest

/-! ## Authorities -/

/-- The largest port. -/
def portLimit : Nat := 2147483647

/-- What follows a port, which has at least one digit. -/
def afterPort? (s : List Char) : Option (List Char) :=
  let digits := s.takeWhile Char.isDigit
  let number := digits.foldl (fun n c => n * 10 + (c.toNat - '0'.toNat)) 0
  if digits.isEmpty || portLimit < number then none else some (s.dropWhile Char.isDigit)

/-- What follows a number of at most 255 without zeros in front. -/
def afterOctet? (s : List Char) : Option (List Char) :=
  let digits := s.takeWhile Char.isDigit
  let leading := digits.head? = some '0'
  match digits.length with
  | 1 => some (s.drop 1)
  | 2 => if leading then none else some (s.drop 2)
  | 0 => none
  | _ =>
    let number := (digits.take 3).foldl (fun n c => n * 10 + (c.toNat - '0'.toNat)) 0
    if leading || 255 < number then none else some (s.drop 3)

/-- What follows an address of four numbers with points between them. `count` numbers
come after the next one. -/
def afterAddress? (count : Nat) (s : List Char) : Option (List Char) :=
  match count, afterOctet? s with
  | 0, rest => rest
  | count + 1, some ('.' :: rest) => afterAddress? count rest
  | _ + 1, _ => none

/-- What follows a host: anything in square brackets, or four numbers, or a name. What
begins with four numbers ends with them. -/
def afterHost? (s : List Char) : Option (List Char) :=
  match s with
  | '[' :: rest => (rest.dropWhile (· ≠ ']')).tail?
  | _ =>
    match afterAddress? 3 s with
    | some rest => some rest
    | none => some (afterMadeOf (fun c => isUnreserved c || isSubDelimiter c) s)

/-- What follows an authority: a host, possibly after a user part and before a port. -/
def afterAuthority? (s : List Char) : Option (List Char) :=
  let host :=
    match afterMadeOf (fun c => isUnreserved c || isSubDelimiter c || c = ':') s with
    | '@' :: host => host
    | _ => s
  match afterHost? host with
  | some (':' :: port) => afterPort? port
  | rest => rest

/-! ## References -/

/-- What follows a path. -/
def afterPath (s : List Char) : List Char :=
  afterMadeOf (fun c => isPathChar c || c = '/') s

/-- What follows an authority and a path, or a path. -/
def afterHierarchy? (s : List Char) : Option (List Char) :=
  match s with
  | '/' :: '/' :: rest =>
    (afterAuthority? rest).map fun rest =>
      if rest.head? = some '/' then afterPath rest else rest
  | _ => some (afterPath s)

/-- What follows the scheme of an absolute reference and its colon. -/
def afterScheme? (s : List Char) : Option (List Char) :=
  match s with
  | [] => none
  | c :: rest =>
    match rest.dropWhile fun d => d.isAlphanum || oneOf "+-." d with
    | ':' :: rest => if c.isAlpha then some rest else none
    | _ => none

/-- Whether a text is nothing, or a query, or a fragment, or both. -/
def isTail (s : List Char) : Bool :=
  let s :=
    match s with
    | '?' :: rest => afterMadeOf (fun c => isPathChar c || oneOf "/?" c) rest
    | _ => s
  let s :=
    match s with
    | '#' :: rest => afterMadeOf (fun c => isPathChar c || oneOf "/?[]" c) rest
    | _ => s
  s.isEmpty

/-- Whether a text is a reference to a resource. The first segment of a relative one
holds no colon, which would make it a scheme. -/
def isResourceReference (s : List Char) : Bool :=
  match afterScheme? s with
  | some rest => (afterHierarchy? rest).any isTail
  | none =>
    let first := s.takeWhile fun c => !oneOf "/?#" c
    (afterHierarchy? s).any isTail && !first.contains ':'

/-- Whether a reference begins with a scheme. -/
def isAbsolute (s : List Char) : Bool :=
  (afterScheme? s).isSome

end SymbolDocs.Markup
