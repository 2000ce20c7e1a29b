/-
When a rounded quotient reaches a number.

A quotient is rounded to the nearest binary64, and the even one of two equally near. So it
is rounded to a number or above exactly if it lies above the middle between that number and
the one below it, or is that middle and the number is even (`le_value_ofRatio_iff`). All
questions about rounded numbers that are asked here come down to this one, which is about
the quotient itself and can be settled by arithmetic.

The number is one with all its digits, in the inside of its binade: the number below a power
of two is nearer than the one above it, and the middle would be another.
-/
import SymbolDocs.Decimal.Binary64
import Mathlib.Algebra.Order.Field.Power
import Mathlib.Data.Rat.Cast.Order
import Mathlib.Tactic.FieldSimp
import Mathlib.Tactic.Linarith
import Mathlib.Tactic.Positivity
import Mathlib.Tactic.Ring

set_option autoImplicit false

namespace SymbolDocs.Binary64

/-! ## Rounding to integers -/

/-- A quotient is rounded to a number or above if it is nearer to it than to the number
below, or in the middle and the number is even. -/
theorem le_roundHalfEven_iff {num den : Nat} (hden : 0 < den) (bound : Nat) :
    bound ≤ roundHalfEven num den ↔
      2 * bound * den < 2 * num + den
        ∨ 2 * bound * den = 2 * num + den ∧ bound % 2 = 0 := by
  have hdiv := Nat.div_add_mod num den
  have hmod := Nat.mod_lt num hden
  generalize hq : num / den = q at hdiv
  generalize hr : num % den = r at hdiv hmod
  have hround : roundHalfEven num den
      = if 2 * r < den then q
        else if den < 2 * r then q + 1 else if q % 2 = 0 then q else q + 1 := by
    rw [roundHalfEven, hq, hr]
  -- Only for the number after the quotient does it matter what is left.
  rcases Nat.lt_trichotomy bound (q + 1) with hlow | rfl | hhigh
  · have hreached : bound ≤ roundHalfEven num den := by
      rw [hround]
      split_ifs <;> omega
    have hproduct : bound * den ≤ den * q := by
      rw [Nat.mul_comm]
      exact Nat.mul_le_mul_left den (Nat.le_of_lt_succ hlow)
    refine ⟨fun _ => .inl ?_, fun _ => hreached⟩
    rw [Nat.mul_assoc]
    omega
  · have hproduct : 2 * (q + 1) * den = 2 * (den * q) + 2 * den := by ring
    rw [hround, hproduct]
    split_ifs <;> omega
  · have hmissed : ¬ bound ≤ roundHalfEven num den := by
      rw [hround]
      split_ifs <;> omega
    have hproduct : den * q + 2 * den ≤ bound * den := by
      have := Nat.mul_le_mul_right den (show q + 2 ≤ bound by omega)
      linarith
    refine ⟨fun h => absurd h hmissed, fun h => ?_⟩
    rw [Nat.mul_assoc] at h
    omega

/-- The same of the quotient as a rational number. -/
theorem le_roundHalfEven_iff_rat {num den : Nat} (hden : 0 < den) (bound : Nat) :
    bound ≤ roundHalfEven num den ↔
      (2 * bound - 1 : ℚ) < 2 * (num / den)
        ∨ (2 * bound - 1 : ℚ) = 2 * (num / den) ∧ bound % 2 = 0 := by
  have hden' : (0 : ℚ) < den := Nat.cast_pos.mpr hden
  have hless : 2 * bound * den < 2 * num + den ↔ (2 * bound - 1 : ℚ) < 2 * (num / den) := by
    rw [← mul_div_assoc, lt_div_iff₀ hden', sub_one_mul, sub_lt_iff_lt_add]
    exact_mod_cast Iff.rfl
  have hequal : 2 * bound * den = 2 * num + den ↔ (2 * bound - 1 : ℚ) = 2 * (num / den) := by
    rw [← mul_div_assoc, eq_div_iff hden'.ne', sub_one_mul, sub_eq_iff_eq_add]
    exact_mod_cast Iff.rfl
  rw [le_roundHalfEven_iff hden, hless, hequal]

/-! ## Quotients and powers of two -/

/-- A power of two, of any sign, as a rational number. -/
def power (e : Int) : ℚ :=
  2 ^ e

theorem power_pos (e : Int) : 0 < power e :=
  zpow_pos two_pos e

theorem power_add (a b : Int) : power (a + b) = power a * power b :=
  zpow_add₀ two_ne_zero a b

theorem power_natCast (n : Nat) : power n = 2 ^ n :=
  zpow_natCast 2 n

theorem power_neg (e : Int) : power (-e) = (power e)⁻¹ :=
  zpow_neg 2 e

theorem power_neg_natCast (n : Nat) : power (-n) = 1 / 2 ^ n := by
  rw [power_neg, power_natCast, one_div]

theorem power_le {a b : Int} (h : a ≤ b) : power a ≤ power b :=
  zpow_le_zpow_right₀ one_le_two h

/-- The next power is twice as large. -/
theorem power_mul_two_le {a b : Int} (h : a < b) : power a * 2 ≤ power b :=
  (power_add a 1).symm.trans_le (power_le h)

theorem scaled_den_pos (num : Nat) {den : Nat} (hden : 0 < den) (e : Int) :
    0 < (scaled num den e).2 := by
  rw [scaled]
  split
  · exact Nat.mul_pos hden (Nat.pow_pos two_pos)
  · exact hden

/-- A scaled quotient is the quotient over the power of two. -/
theorem scaled_eq (num : Nat) {den : Nat} (hden : 0 < den) (e : Int) :
    ((scaled num den e).1 : ℚ) / (scaled num den e).2 = num / den / power e := by
  have hden' : (den : ℚ) ≠ 0 := Nat.cast_ne_zero.mpr (Nat.ne_of_gt hden)
  have hpower := (power_pos e).ne'
  rw [scaled]
  split
  · rename_i hsign
    have hnat : power e = (2 : ℚ) ^ e.toNat := by
      rw [← power_natCast, Int.toNat_of_nonneg hsign]
    have hcast : ((den * Nat.pow 2 e.toNat : Nat) : ℚ) = den * power e := by
      rw [hnat]
      push_cast [Nat.pow_eq]
      rfl
    rw [hcast]
    field_simp
  · rename_i hsign
    have hnat : (2 : ℚ) ^ (-e).toNat * power e = 1 := by
      rw [← power_natCast, Int.toNat_of_nonneg (by omega), ← power_add, Int.add_left_neg]
      rfl
    have hcast : ((num * Nat.pow 2 (-e).toNat : Nat) : ℚ) = num * 2 ^ (-e).toNat := by
      push_cast [Nat.pow_eq]
      rfl
    rw [hcast]
    field_simp
    rw [mul_assoc, hnat, mul_one]

/-! ## The exponent of a quotient -/

/-- The place of a quotient between powers of two, by the digits of its terms. -/
theorem log2_bounds {num den : Nat} (hnum : 0 < num) (hden : 0 < den) :
    power 52 * power ((num.log2 : Int) - den.log2 - 53) < (num : ℚ) / den
      ∧ (num : ℚ) / den < power 54 * power ((num.log2 : Int) - den.log2 - 53) := by
  have hden' : (0 : ℚ) < den := Nat.cast_pos.mpr hden
  have hnum_low : power num.log2 ≤ num := by
    rw [power_natCast]
    exact_mod_cast Nat.log2_self_le hnum.ne'
  have hnum_high : (num : ℚ) < power (num.log2 + 1) := by
    rw [← Nat.cast_succ, power_natCast]
    exact_mod_cast Nat.lt_log2_self
  have hden_low : power den.log2 ≤ den := by
    rw [power_natCast]
    exact_mod_cast Nat.log2_self_le hden.ne'
  have hden_high : (den : ℚ) < power (den.log2 + 1) := by
    rw [← Nat.cast_succ, power_natCast]
    exact_mod_cast Nat.lt_log2_self
  rw [← power_add, ← power_add, lt_div_iff₀ hden', div_lt_iff₀ hden']
  constructor
  · calc power (52 + ((num.log2 : Int) - den.log2 - 53)) * den
        < power (52 + ((num.log2 : Int) - den.log2 - 53)) * power (den.log2 + 1) :=
          mul_lt_mul_of_pos_left hden_high (power_pos _)
      _ = power num.log2 := by rw [← power_add]; congr 1; omega
      _ ≤ num := hnum_low
  · calc (num : ℚ) < power (num.log2 + 1) := hnum_high
      _ = power (54 + ((num.log2 : Int) - den.log2 - 53)) * power den.log2 := by
          rw [← power_add]; congr 1; omega
      _ ≤ power (54 + ((num.log2 : Int) - den.log2 - 53)) * den :=
          mul_le_mul_of_nonneg_left hden_low (power_pos _).le

/-- The exponent leaves fifty-three digits before the point, or fewer if it is the least. -/
theorem exponentFor_spec {num den : Nat} (hnum : 0 < num) (hden : 0 < den) :
    -1074 ≤ exponentFor num den
      ∧ (num : ℚ) / den < power 53 * power (exponentFor num den)
      ∧ (exponentFor num den = -1074
        ∨ power 52 * power (exponentFor num den) ≤ (num : ℚ) / den) := by
  obtain ⟨hlow, hhigh⟩ := log2_bounds hnum hden
  generalize he : (num.log2 : Int) - den.log2 - 53 = e at hlow hhigh
  have hscaled := scaled_eq num hden e
  have hpos := scaled_den_pos num hden e
  -- One digit may be too many, and then the next exponent is taken.
  have hfits : (scaled num den e).1 / (scaled num den e).2 < Nat.pow 2 53
      ↔ (num : ℚ) / den < power 53 * power e := by
    have hpos' : (0 : ℚ) < (scaled num den e).2 := Nat.cast_pos.mpr hpos
    rw [Nat.div_lt_iff_lt_mul hpos, ← div_lt_iff₀ (power_pos e), ← hscaled, div_lt_iff₀ hpos',
      ← Nat.cast_lt (α := ℚ), Nat.cast_mul]
    exact Iff.rfl
  obtain ⟨fitted, hfitted, hbelow, habove⟩ : ∃ fitted : Int,
      exponentFor num den = max fitted (-1074)
        ∧ power 52 * power fitted ≤ (num : ℚ) / den
        ∧ (num : ℚ) / den < power 53 * power fitted := by
    have hexponent : exponentFor num den
        = max (if (scaled num den e).1 / (scaled num den e).2 < Nat.pow 2 53 then e else e + 1)
          (-1074) := by
      rw [exponentFor, he]
    refine ⟨_, hexponent, ?_⟩
    split
    · rename_i hdigits
      exact ⟨hlow.le, hfits.mp hdigits⟩
    · rename_i hdigits
      have hstep (n : Int) : power n * power (e + 1) = power (n + 1) * power e := by
        rw [← power_add, ← power_add, Int.add_assoc, Int.add_comm 1 e]
      rw [hstep, hstep]
      exact ⟨not_lt.mp fun h => hdigits (hfits.mpr h), hhigh⟩
  rw [hfitted]
  refine ⟨le_max_right _ _, ?_, ?_⟩
  · calc (num : ℚ) / den < power 53 * power fitted := habove
      _ ≤ power 53 * power (max fitted (-1074)) :=
          mul_le_mul_of_nonneg_left (power_le (le_max_left _ _)) (power_pos _).le
  · rcases le_total fitted (-1074) with h | h
    · exact .inl (max_eq_right h)
    · exact .inr (by rw [max_eq_left h]; exact hbelow)

/-! ## Values -/

/-- The size of a finite number. -/
def value (x : Binary64) : ℚ :=
  x.parts.1 * power x.parts.2

theorem toNat_ofMagnitude {n : Nat} (h : n < 2 ^ 63) :
    (ofMagnitude false n).bits.toNat = n := by
  change (UInt64.ofNat (0 + n)).toNat = n
  rw [Nat.zero_add, UInt64.toNat_ofNat_of_lt' (Nat.lt_trans h (by decide))]

/-- Packing and unpacking lose nothing that has room beside the sign. -/
theorem magnitude_ofMagnitude {n : Nat} (h : n < 2 ^ 63) :
    (ofMagnitude false n).magnitude = n := by
  rw [magnitude, toNat_ofMagnitude h]
  exact Nat.mod_eq_of_lt h

theorem isNegative_ofMagnitude {n : Nat} (h : n < 2 ^ 63) :
    (ofMagnitude false n).isNegative = false := by
  rw [isNegative, toNat_ofMagnitude h]
  exact decide_eq_false (Nat.not_le.mpr h)

/-- The bits of a significand and an exponent. -/
def packed (m : Nat) (e : Int) : Nat :=
  if m < Nat.pow 2 52 then m else (e + 1075).toNat * Nat.pow 2 52 + (m - Nat.pow 2 52)

section Packing

variable {m : Nat} {e : Int}

/-- A significand with its exponent stays below infinity, even one that carries into the next
exponent. -/
theorem packed_lt (hm : m ≤ 2 ^ 53) (he : e ≤ 970) : packed m e < infinityBits := by
  rw [packed, infinityBits]
  change (if m < 4503599627370496 then _ else _ * 4503599627370496 + (m - 4503599627370496))
    < 2047 * 4503599627370496
  split <;> omega

theorem packed_lt_sign (hm : m ≤ 2 ^ 53) (he : e ≤ 970) : packed m e < 2 ^ 63 :=
  Nat.lt_trans (packed_lt hm he) (by decide)

/-- A number is unpacked into what it was packed from. A significand of one digit too many
is that of the next exponent. -/
theorem value_packed (hm : m ≤ 2 ^ 53) (hleast : -1074 ≤ e) (he : e ≤ 970)
    (hsmall : m < 2 ^ 52 → e = -1074) :
    value (ofMagnitude false (packed m e)) = m * power e := by
  have hparts : parts (ofMagnitude false (packed m e))
      = if m < 2 ^ 53 then (m, e) else (2 ^ 52, e + 1) := by
    have hdigits : Nat.pow 2 52 = 4503599627370496 := rfl
    have hmore : 2 ^ 53 = 9007199254740992 := rfl
    rw [hmore] at hm ⊢
    simp only [parts, magnitude_ofMagnitude (packed_lt_sign hm he)]
    rw [packed, hdigits]
    rcases Nat.lt_or_ge m 4503599627370496 with hlow | hlow
    · obtain rfl := hsmall hlow
      rw [if_pos hlow, if_pos (by omega), if_pos (by omega)]
      exact congrArg (·, -1074) (Nat.mod_eq_of_lt hlow)
    · rw [if_neg (Nat.not_lt.mpr hlow), if_neg (by omega)]
      split
      · exact Prod.ext (by simp only; omega) (by simp only; omega)
      · exact Prod.ext (by simp only; omega) (by simp only; omega)
  rw [value, hparts]
  split
  · rfl
  · rename_i hfull
    obtain rfl : m = 2 ^ 53 := Nat.le_antisymm hm (Nat.not_lt.mp hfull)
    change ((2 ^ 52 : Nat) : ℚ) * power (e + 1) = _
    rw [power_add]
    push_cast
    have : power 1 = 2 := rfl
    rw [this]
    ring

end Packing

/-! ## Rounded quotients -/

section Rounded

variable {num den : Nat}

/-- The significand of a rounded quotient. -/
def significand (num den : Nat) : Nat :=
  roundHalfEven (scaled num den (exponentFor num den)).1 (scaled num den (exponentFor num den)).2

/-- A significand is rounded to a number or above if the quotient is nearer to it than to the
number below, or in the middle and the number is even. -/
theorem le_significand_iff (num : Nat) {den : Nat} (hden : 0 < den) (bound : Nat) :
    bound ≤ significand num den ↔
      (2 * bound - 1 : ℚ) * power (exponentFor num den) < 2 * (num / den)
        ∨ (2 * bound - 1 : ℚ) * power (exponentFor num den) = 2 * (num / den)
          ∧ bound % 2 = 0 := by
  have hpower := power_pos (exponentFor num den)
  rw [significand, le_roundHalfEven_iff_rat (scaled_den_pos num hden _), scaled_eq num hden,
    ← mul_div_assoc, lt_div_iff₀ hpower, eq_div_iff hpower.ne']

/-- The significand of a ratio has 53 bits, or is the least number with more. -/
theorem significand_le (hnum : 0 < num) (hden : 0 < den) : significand num den ≤ 2 ^ 53 := by
  obtain ⟨-, habove, -⟩ := exponentFor_spec hnum hden
  have hpower := power_pos (exponentFor num den)
  rw [show power 53 = 2 ^ 53 from rfl] at habove
  refine Nat.le_of_lt_succ (Nat.not_le.mp fun h => ?_)
  rcases (le_significand_iff num hden _).mp h with h | ⟨h, -⟩ <;>
  · push_cast at h
    linarith

/-- A significand that is short is one at the least exponent. -/
theorem exponentFor_of_significand_lt (hnum : 0 < num) (hden : 0 < den)
    (h : significand num den < 2 ^ 52) : exponentFor num den = -1074 := by
  obtain ⟨-, -, hleast | hbelow⟩ := exponentFor_spec hnum hden
  · exact hleast
  · have hpower := power_pos (exponentFor num den)
    rw [show power 52 = 2 ^ 52 from rfl] at hbelow
    refine absurd h (Nat.not_lt.mpr ((le_significand_iff num hden _).mpr (.inl ?_)))
    push_cast
    linarith

/-- The exponent of a quotient that is not too large is none of an infinity. -/
theorem exponentFor_le (hnum : 0 < num) (hden : 0 < den) (h : (num : ℚ) / den < power 1023) :
    exponentFor num den ≤ 970 := by
  obtain ⟨-, -, hleast | hbelow⟩ := exponentFor_spec hnum hden
  · omega
  · rw [← power_add] at hbelow
    by_contra hlarge
    have := power_le (show (1023 : Int) ≤ 52 + exponentFor num den by omega)
    linarith

/-- A ratio that is not too large is rounded to its significand and exponent, packed. -/
theorem ofRatio_eq (hnum : 0 < num) (hden : 0 < den) (h : (num : ℚ) / den < power 1023) :
    ofRatio false num den
      = ofMagnitude false (packed (significand num den) (exponentFor num den)) := by
  have hfinite := packed_lt (significand_le hnum hden) (exponentFor_le hnum hden h)
  rw [ofRatio, if_neg hnum.ne']
  change (if infinityBits ≤ packed (significand num den) (exponentFor num den)
    then infinity false else _) = _
  rw [if_neg (Nat.not_le.mpr hfinite)]
  rfl

/-- Rounding keeps the sign. -/
theorem isNegative_ofRatio (hden : 0 < den) (h : (num : ℚ) / den < power 1023) :
    (ofRatio false num den).isNegative = false := by
  rcases Nat.eq_zero_or_pos num with rfl | hnum
  · exact isNegative_ofMagnitude (by decide)
  · rw [ofRatio_eq hnum hden h]
    exact isNegative_ofMagnitude
      (packed_lt_sign (significand_le hnum hden) (exponentFor_le hnum hden h))

theorem value_ofRatio_zero : (ofRatio false 0 den).value = 0 := by
  have hzero : (ofMagnitude false 0).parts.1 = 0 := by decide
  rw [ofRatio, if_pos rfl, value, hzero, Nat.cast_zero, zero_mul]

/-- The rounded ratio as an exact number. -/
theorem value_ofRatio (hnum : 0 < num) (hden : 0 < den) (h : (num : ℚ) / den < power 1023) :
    (ofRatio false num den).value = significand num den * power (exponentFor num den) := by
  rw [ofRatio_eq hnum hden h]
  exact value_packed (significand_le hnum hden) (exponentFor_spec hnum hden).1
    (exponentFor_le hnum hden h) (exponentFor_of_significand_lt hnum hden)

/-- **When a rounded quotient reaches a number** that has all its digits and is no power of
two: if the quotient lies above the middle between that number and the one below it, or is
the middle and the significand of the number is even. -/
theorem le_value_ofRatio_iff (hden : 0 < den) (h : (num : ℚ) / den < power 1023) (bound : Nat)
    (hlow : 2 ^ 52 < bound) (hhigh : bound < 2 ^ 53) (e : Int) (he : -1074 ≤ e) :
    bound * power e ≤ (ofRatio false num den).value ↔
      (2 * bound - 1 : ℚ) * power e < 2 * (num / den)
        ∨ (2 * bound - 1 : ℚ) * power e = 2 * (num / den) ∧ bound % 2 = 0 := by
  have hlow' : (2 ^ 52 + 1 : ℚ) ≤ bound := by exact_mod_cast hlow
  have hhigh' : (bound + 1 : ℚ) ≤ 2 ^ 53 := by exact_mod_cast hhigh
  rcases Nat.eq_zero_or_pos num with rfl | hnum
  · -- Nothing is rounded to nothing.
    have hbound : 0 < (bound : ℚ) * power e := mul_pos (by linarith) (power_pos e)
    have hmiddle : 0 < (2 * bound - 1 : ℚ) * power e := mul_pos (by linarith) (power_pos e)
    rw [value_ofRatio_zero, Nat.cast_zero, zero_div, mul_zero]
    constructor
    · exact fun hreached => absurd hreached (not_le.mpr hbound)
    · rintro (hless | ⟨hequal, -⟩)
      · exact absurd hless (not_lt.mpr hmiddle.le)
      · exact absurd hequal hmiddle.ne'
  rw [value_ofRatio hnum hden h]
  obtain ⟨hleast, habove, hbelow⟩ := exponentFor_spec hnum hden
  have hiff := le_significand_iff num hden bound
  have hsignificand : (significand num den : ℚ) ≤ 2 ^ 53 := by
    exact_mod_cast significand_le hnum hden
  -- The exponents of the two numbers decide, unless they are the same.
  rcases lt_trichotomy (exponentFor num den) e with hless | heq | hmore
  · have hstep : power (exponentFor num den) * 2 ≤ power e := power_mul_two_le hless
    have hpos := power_pos e
    rw [show power 53 = 2 ^ 53 from rfl] at habove
    have hmissed : significand num den * power (exponentFor num den) < bound * power e := by
      calc significand num den * power (exponentFor num den)
          ≤ 2 ^ 53 * power (exponentFor num den) :=
            mul_le_mul_of_nonneg_right hsignificand (power_pos _).le
        _ ≤ 2 ^ 52 * power e := by linarith
        _ < bound * power e := mul_lt_mul_of_pos_right (by linarith) hpos
    have hbeyond : 2 * ((num : ℚ) / den) < (2 * bound - 1) * power e := by
      calc 2 * ((num : ℚ) / den) < 2 ^ 53 * power e := by linarith
        _ ≤ (2 * bound - 1) * power e := mul_le_mul_of_nonneg_right (by linarith) hpos.le
    constructor
    · exact fun hreached => absurd hreached (not_le.mpr hmissed)
    · rintro (hmiddle | ⟨hmiddle, -⟩)
      · exact absurd hmiddle (not_lt.mpr hbeyond.le)
      · exact absurd hmiddle hbeyond.ne'
  · rw [heq] at hiff ⊢
    rw [mul_le_mul_iff_left₀ (power_pos e), Nat.cast_le]
    exact hiff
  · have hstep : power e * 2 ≤ power (exponentFor num den) := power_mul_two_le hmore
    have hpos := power_pos (exponentFor num den)
    have hfull : (2 ^ 52 : ℚ) ≤ significand num den := by
      have hnot : ¬ significand num den < 2 ^ 52 := by
        intro hsmall
        have := exponentFor_of_significand_lt hnum hden hsmall
        omega
      exact_mod_cast Nat.not_lt.mp hnot
    have hquotient : 2 ^ 52 * power (exponentFor num den) ≤ (num : ℚ) / den :=
      hbelow.resolve_left (by omega)
    have hscaled : bound * power e ≤ 2 ^ 52 * power (exponentFor num den) := by
      calc (bound : ℚ) * power e ≤ 2 ^ 53 * power e :=
            mul_le_mul_of_nonneg_right (by linarith) (power_pos e).le
        _ ≤ 2 ^ 52 * power (exponentFor num den) := by linarith
    constructor
    · intro _
      have := power_pos e
      exact .inl (by linarith)
    · intro _
      exact hscaled.trans (mul_le_mul_of_nonneg_right hfull hpos.le)

end Rounded

end SymbolDocs.Binary64
