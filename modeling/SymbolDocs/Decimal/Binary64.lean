/-
Binary64 numbers as bit patterns, and the rounding of quotients to them.

Two parts of a report need floating point to the last bit: a number that a record
gives with a point or an exponent, and the share of documented symbols. Both are
quotients of natural numbers, rounded once to the nearest binary64, a tie going
to the even neighbour. Everything here is integer arithmetic on the quotient, so
a statement about a rounded number is a statement about natural numbers. Powers are
written `Nat.pow`, which means the same operation whatever else is in scope.
-/

set_option autoImplicit false

namespace SymbolDocs

/-- A binary64 number, held as its bits: sign, eleven bits of exponent, fifty-two
of fraction. -/
structure Binary64 where
  bits : UInt64
  deriving DecidableEq, Repr

namespace Binary64

/-! ## Quotients rounded to integers -/

/-- The natural number nearest to `num / den`, the even one of two equally near.
`den` is positive. -/
def roundHalfEven (num den : Nat) : Nat :=
  let q := num / den
  let twice := 2 * (num % den)
  if twice < den then q
  else if den < twice then q + 1
  else if q % 2 = 0 then q
  else q + 1

/-- `num / den` divided by `2 ^ e`, as a numerator and a denominator. -/
def scaled (num den : Nat) (e : Int) : Nat × Nat :=
  if 0 ≤ e then (num, den * Nat.pow 2 e.toNat) else (num * Nat.pow 2 (-e).toNat, den)

/-! ## Packing and unpacking -/

/-- The number with all bits of the sign and the given bits below it. -/
def ofMagnitude (negative : Bool) (magnitude : Nat) : Binary64 :=
  ⟨UInt64.ofNat ((if negative then Nat.pow 2 63 else 0) + magnitude)⟩

/-- The bits below the sign of an infinity. -/
def infinityBits : Nat :=
  2047 * Nat.pow 2 52

/-- Infinity of either sign. -/
def infinity (negative : Bool) : Binary64 :=
  ofMagnitude negative infinityBits

/-- The quiet value that is no number. -/
def notANumber : Binary64 :=
  ofMagnitude false (infinityBits + Nat.pow 2 51)

def isNegative (x : Binary64) : Bool :=
  Nat.pow 2 63 ≤ x.bits.toNat

/-- The bits below the sign. -/
def magnitude (x : Binary64) : Nat :=
  x.bits.toNat % Nat.pow 2 63

def isInfinite (x : Binary64) : Bool :=
  x.magnitude = infinityBits

def isNaN (x : Binary64) : Bool :=
  infinityBits < x.magnitude

/-- Significand and exponent of a finite number: its size is the first times two
to the power of the second. -/
def parts (x : Binary64) : Nat × Int :=
  let field : Nat := x.magnitude / Nat.pow 2 52
  let fraction : Nat := x.magnitude % Nat.pow 2 52
  if field = 0 then (fraction, -1074) else (Nat.pow 2 52 + fraction, (field : Int) - 1075)

/-- The size of a finite number as a quotient. -/
def ratio (x : Binary64) : Nat × Nat :=
  let (m, e) := x.parts
  scaled m 1 (-e)

/-! ## Rounding -/

/-- The exponent that leaves the size of `num / den`, both positive, with
fifty-three binary digits before the point, but no exponent below the least one
that a binary64 has. -/
def exponentFor (num den : Nat) : Int :=
  let e := (num.log2 : Int) - (den.log2 : Int) - 53
  let (n, d) := scaled num den e
  let fitted := if n / d < Nat.pow 2 53 then e else e + 1
  max fitted (-1074)

/-- The binary64 nearest to `num / den`, or to its opposite. A quotient too large
for all finite numbers becomes an infinity, one too small becomes zero. -/
def ofRatio (negative : Bool) (num den : Nat) : Binary64 :=
  if num = 0 then ofMagnitude negative 0
  else
    let e := exponentFor num den
    let (n, d) := scaled num den e
    let m := roundHalfEven n d
    -- A significand that rounds up to the next power of two carries into the
    -- exponent by itself, because the two are adjacent fields.
    let magnitude :=
      if m < Nat.pow 2 52 then m
      else (e + 1075).toNat * Nat.pow 2 52 + (m - Nat.pow 2 52)
    if infinityBits ≤ magnitude then infinity negative else ofMagnitude negative magnitude

/-- The binary64 nearest to `digits * 10 ^ exponent`. Exponents beyond the range
of the format are cut off first, so that no enormous power is computed. -/
def ofDecimal (negative : Bool) (digits : Nat) (exponent : Int) : Binary64 :=
  let size := (Nat.toDigits 10 digits).length
  if digits = 0 || exponent + size < -400 then ofMagnitude negative 0
  else if 400 < exponent + size then infinity negative
  else if 0 ≤ exponent then ofRatio negative (digits * Nat.pow 10 exponent.toNat) 1
  else ofRatio negative digits (Nat.pow 10 (-exponent).toNat)

/-- The product of a finite number and a natural number, rounded. -/
def timesNat (x : Binary64) (k : Nat) : Binary64 :=
  let (n, d) := x.ratio
  ofRatio x.isNegative (n * k) d

/-- The sixteen hexadecimal digits of the bits. -/
def hex (x : Binary64) : String :=
  let digits := Nat.toDigits 16 x.bits.toNat
  String.ofList (List.replicate (16 - digits.length) '0' ++ digits)

end Binary64

end SymbolDocs
