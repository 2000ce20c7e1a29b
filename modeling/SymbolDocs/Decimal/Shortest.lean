/-
The shortest decimal that reads back as a given binary64, and its notation.

Of all decimals that round to a number, the one with the fewest digits is shown,
and of those the nearest. It is found by trying grids of one, two, up to
seventeen digits: on each grid only the two points next to the number can round
to it. The notation is positional for numbers from 0.0001 up to 10^16 and has an
exponent of at least two digits outside that range.
-/
import SymbolDocs.Decimal.Binary64

set_option autoImplicit false

namespace SymbolDocs.Binary64

/-- A decimal: its digits, most significant first, and the place of the point,
counted from before the first digit. -/
structure Shortest where
  digits : List Char
  point : Int

/-- The least `p` for which the positive quotient `num / den` is below `10 ^ p`,
found by correcting an estimate from the lengths of both. -/
def decimalPoint (num den : Nat) : Int :=
  let estimate : Int := (Nat.toDigits 10 num).length - (Nat.toDigits 10 den).length
  let below (p : Int) : Bool :=
    if 0 ≤ p then num < den * Nat.pow 10 p.toNat else num * Nat.pow 10 (-p).toNat < den
  if below estimate then estimate else estimate + 1

/-- The point of the grid of `count` digits that reads back as the positive number
`x`, the nearer one if both neighbours do. -/
def onGrid? (x : Binary64) (count : Nat) : Option Shortest :=
  let (num, den) := x.ratio
  let point := decimalPoint num den
  let unit : Int := point - count
  let (n, d) :=
    if 0 ≤ unit then (num, den * Nat.pow 10 unit.toNat) else (num * Nat.pow 10 (-unit).toNat, den)
  let low := n / d
  let readsBack (k : Nat) : Bool := ofDecimal false k unit = x
  let nearest := roundHalfEven n d
  let other := if nearest = low then low + 1 else low
  let found :=
    if readsBack nearest then some nearest
    else if readsBack other then some other
    else none
  found.map fun k =>
    let digits := Nat.toDigits 10 k
    -- Rounding up to a power of ten gains a digit, and the point moves with it.
    { digits := digits, point := unit + digits.length }

/-- The digits shown for a positive number. -/
def shortest (x : Binary64) : Shortest :=
  ((List.range 17).findSome? fun i => x.onGrid? (i + 1)).getD { digits := ['0'], point := 1 }

/-- The digits with the zeros at their end dropped. -/
def Shortest.significant (s : Shortest) : List Char :=
  (s.digits.reverse.dropWhile (· = '0')).reverse

/-- A decimal in positional or exponent notation. -/
def Shortest.written (s : Shortest) : List Char :=
  let ds := s.significant
  let size : Int := ds.length
  if -4 < s.point && s.point ≤ 16 then
    if s.point ≤ 0 then
      '0' :: '.' :: List.replicate (-s.point).toNat '0' ++ ds
    else if size ≤ s.point then
      ds ++ List.replicate (s.point - size).toNat '0' ++ ['.', '0']
    else
      ds.take s.point.toNat ++ '.' :: ds.drop s.point.toNat
  else
    let exponent := s.point - 1
    let mantissa :=
      match ds with
      | [] => ['0']
      | [d] => [d]
      | d :: rest => d :: '.' :: rest
    let size := Nat.toDigits 10 exponent.natAbs
    mantissa ++ 'e' :: (if exponent < 0 then '-' else '+')
      :: (List.replicate (2 - size.length) '0' ++ size)

/-- How a number is written. -/
def text (x : Binary64) : String :=
  if x.isNaN then "nan"
  else
    let size :=
      if x.isInfinite then ['i', 'n', 'f']
      else if x.magnitude = 0 then ['0', '.', '0']
      else (shortest (ofMagnitude false x.magnitude)).written
    String.ofList (if x.isNegative then '-' :: size else size)

end SymbolDocs.Binary64
