/-
The encoding that writes text outside a safe part of ASCII in runs of digits.

A plus sign opens a run. A run is made of digits of six bits each, which are taken
together and cut into units of sixteen bits; two units that form a surrogate pair are
one character. A run ends before the first character that is no digit, and a minus sign
that ends it is dropped. What is left over after the last unit must be less than a
digit and must be zero. A plus sign that a minus sign follows is a plus sign.
-/

set_option autoImplicit false

namespace SymbolDocs.Text.Shifted

/-- Whether a byte stands for itself outside a run. -/
def isDirect (byte : Nat) : Bool :=
  byte = 0x09 || byte = 0x0a || byte = 0x0d
    || (0x20 ≤ byte && byte ≤ 0x7d && byte ≠ 0x2b && byte ≠ 0x5c)

/-- The value of a digit. -/
def digit? (byte : Nat) : Option Nat :=
  if 0x41 ≤ byte ∧ byte ≤ 0x5a then some (byte - 0x41)
  else if 0x61 ≤ byte ∧ byte ≤ 0x7a then some (byte - 0x61 + 26)
  else if 0x30 ≤ byte ∧ byte ≤ 0x39 then some (byte - 0x30 + 52)
  else if byte = 0x2b then some 62
  else if byte = 0x2f then some 63
  else none

/-! ## Runs -/

/-- What has been read of a run. -/
structure Run where
  /-- The bits that are not yet in a unit, as a number. -/
  value : Nat
  /-- How many bits those are. -/
  bits : Nat
  /-- The units, the last one first. -/
  units : List Nat
  deriving DecidableEq, Repr

/-- A run of no digits. -/
def Run.empty : Run :=
  { value := 0, bits := 0, units := [] }

/-- The run with one digit more. Sixteen bits are a unit; the bits beyond them stay for
the next one. -/
def Run.push (run : Run) (digit : Nat) : Run :=
  let value := 64 * run.value + digit
  let bits := run.bits + 6
  if bits < 16 then { run with value := value, bits := bits }
  else
    let unit := value >>> (bits - 16)
    { value := value - (unit <<< (bits - 16)), bits := bits - 16, units := unit :: run.units }

/-- Whether a run may end here. -/
def Run.isWhole (run : Run) : Bool :=
  run.bits < 6 && run.value = 0

/-- The characters of units. A surrogate without its partner is refused. -/
def charsOfUnits : List Nat → Option (List Char)
  | [] => some []
  | [unit] => if 0xd800 ≤ unit ∧ unit < 0xe000 then none else some [Char.ofNat unit]
  | unit :: next :: rest =>
    if 0xd800 ≤ unit ∧ unit < 0xdc00 then
      if 0xdc00 ≤ next ∧ next < 0xe000 then
        (charsOfUnits rest).map
          (Char.ofNat (0x10000 + 0x400 * (unit - 0xd800) + (next - 0xdc00)) :: ·)
      else none
    else if 0xdc00 ≤ unit ∧ unit < 0xe000 then none
    else (charsOfUnits (next :: rest)).map (Char.ofNat unit :: ·)

/-- The characters of a run that ends here. -/
def Run.chars (run : Run) : Option (List Char) :=
  if run.isWhole then charsOfUnits run.units.reverse else none

/-! ## Texts -/

/-- Reads bytes, inside a run or outside one. -/
def decodeFrom : Option Run → List Nat → Option (List Char)
  | none, [] => some []
  | some _, [] => none
  | none, byte :: rest =>
    if byte = 0x2b then
      if rest.head? = some 0x2d then
        match rest with
        | [] => none
        | _ :: rest => (decodeFrom none rest).map ('+' :: ·)
      else decodeFrom (some .empty) rest
    else if isDirect byte then (decodeFrom none rest).map (Char.ofNat byte :: ·)
    else none
  | some run, byte :: rest =>
    match digit? byte with
    | some digit => decodeFrom (some (run.push digit)) rest
    | none => do
      let before ← run.chars
      let after ←
        if byte = 0x2d then decodeFrom none rest
        else if isDirect byte then (decodeFrom none rest).map (Char.ofNat byte :: ·)
        else none
      return before ++ after

/-- The characters of a run of bytes. -/
def decode (bytes : List Nat) : Option (List Char) :=
  decodeFrom none bytes

end SymbolDocs.Text.Shifted
