/-
When a coverage is reported as a hundred percent.

The share of documented symbols is rounded, a hundred times that is rounded, and what comes
out is rounded to an integer. Each time the question whether a number is reached becomes one
about the number before (`le_value_ofRatio_iff`), so that in the end it is about the two
counts: the percentage is a hundred exactly if the undocumented symbols are no more than half
a percent, up to an error beyond the tenth place (`percent_eq_hundred_iff`). Up to lists of
2 ^ 46 symbols the error makes no difference (`percent_eq_hundred_iff_of_le`).
-/
import SymbolDocs.Coverage
import SymbolDocs.Proofs.Decimal.Rounding

set_option autoImplicit false

namespace SymbolDocs

namespace Binary64

theorem ratio_den_pos (x : Binary64) : 0 < x.ratio.2 :=
  scaled_den_pos _ one_pos _

theorem ratio_eq (x : Binary64) : (x.ratio.1 : ℚ) / x.ratio.2 = x.value := by
  change ((scaled x.parts.1 1 (-x.parts.2)).1 : ℚ) / (scaled x.parts.1 1 (-x.parts.2)).2 = _
  rw [scaled_eq _ one_pos, Nat.cast_one, div_one, value, power_neg, div_inv_eq_mul]

/-! ## Digits -/

theorem power_neg_one : power (-1) = 1 / 2 := power_neg_natCast 1

/-- The last digit of what is between 64 and 128. -/
theorem power_neg_46 : power (-46) = 1 / 2 ^ 46 := power_neg_natCast 46

/-- The last digit of what is between one and two. -/
theorem power_neg_52 : power (-52) = 1 / 2 ^ 52 := power_neg_natCast 52

/-- The last digit of what is between a half and one. -/
theorem power_neg_53 : power (-53) = 1 / 2 ^ 53 := power_neg_natCast 53

/-- The quotients of which there is question here are far from the largest number. -/
theorem lt_power_of_le {x : ℚ} (h : x ≤ power 7) : x < power 1023 :=
  h.trans_lt (zpow_lt_zpow_right₀ one_lt_two (by decide))

/-! ## A share -/

section Share

variable {share total : Nat}

theorem share_lt_power (h : share ≤ total) :
    (share : ℚ) / total ≤ 1 ∧ (share : ℚ) / total < power 1023 := by
  have hone : (share : ℚ) / total ≤ 1 :=
    div_le_one_of_le₀ (Nat.cast_le.mpr h) (Nat.cast_nonneg total)
  exact ⟨hone, lt_power_of_le (hone.trans (one_le_zpow₀ one_le_two (by decide)))⟩

/-- A share of at most one is not rounded beyond one, but for the last digit. -/
theorem value_share_lt (htotal : 0 < total) (h : share ≤ total) :
    (ofRatio false share total).value < (2 ^ 52 + 1) * power (-52) := by
  obtain ⟨hone, hsize⟩ := share_lt_power h
  have hiff := le_value_ofRatio_iff htotal hsize (2 ^ 52 + 1) (by decide) (by decide) (-52)
    (by decide)
  have hbound : ((2 ^ 52 + 1 : Nat) : ℚ) = 2 ^ 52 + 1 := by norm_num
  rw [power_neg_52] at hiff ⊢
  rw [hbound] at hiff
  refine not_le.mp fun hreached => ?_
  rcases hiff.mp hreached with hless | ⟨hequal, -⟩
  · norm_num at hless
    linarith
  · norm_num at hequal
    linarith

/-- A share above a half is a multiple of its last digit. -/
theorem exists_value_share (htotal : 0 < total) (h : share ≤ total)
    (hhalf : power (-1) < (ofRatio false share total).value) :
    ∃ n : Nat, (ofRatio false share total).value = n * power (-53) := by
  obtain ⟨-, hsize⟩ := share_lt_power h
  rcases Nat.eq_zero_or_pos share with rfl | hshare
  · rw [value_ofRatio_zero] at hhalf
    exact absurd hhalf (not_lt.mpr (power_pos _).le)
  have hsignificand : (significand share total : ℚ) ≤ power 53 := by
    change _ ≤ ((2 : ℚ) ^ 53)
    exact_mod_cast significand_le hshare htotal
  rw [value_ofRatio hshare htotal hsize] at hhalf ⊢
  generalize exponentFor share total = e at hhalf
  have hlarge : -53 ≤ e := by
    by_contra hsmall
    have hproduct : significand share total * power e ≤ power (-1) := by
      calc significand share total * power e ≤ power 53 * power e :=
            mul_le_mul_of_nonneg_right hsignificand (power_pos e).le
        _ ≤ power (-1) := by
            rw [← power_add]
            exact power_le (by omega)
    exact absurd hhalf (not_lt.mpr hproduct)
  obtain ⟨k, hk⟩ := Int.le.dest hlarge
  refine ⟨significand share total * 2 ^ k, ?_⟩
  rw [← hk, power_add, power_natCast]
  push_cast
  ring

end Share

/-! ## A share in percent -/

/-- The percentage of a share. -/
def percentOf (share : Binary64) : Nat :=
  roundHalfEven (share.timesNat 100).ratio.1 (share.timesNat 100).ratio.2

theorem le_percentOf_iff (share : Binary64) (bound : Nat) :
    bound ≤ percentOf share ↔
      (2 * bound - 1 : ℚ) < 2 * (share.timesNat 100).value
        ∨ (2 * bound - 1 : ℚ) = 2 * (share.timesNat 100).value ∧ bound % 2 = 0 := by
  rw [percentOf, le_roundHalfEven_iff_rat (ratio_den_pos _), ratio_eq]

section Percent

variable {share total : Nat}

/-- Whether a hundred times a share, rounded, reaches a number between 64 and 128 is a question
about the share as it was rounded before. -/
theorem le_value_timesNat_iff (htotal : 0 < total) (h : share ≤ total) (bound : Nat)
    (hlow : 2 ^ 52 < bound) (hhigh : bound < 2 ^ 53) :
    bound * power (-46) ≤ ((ofRatio false share total).timesNat 100).value ↔
      (2 * bound - 1 : ℚ) * power (-46) < 200 * (ofRatio false share total).value
        ∨ (2 * bound - 1 : ℚ) * power (-46) = 200 * (ofRatio false share total).value
          ∧ bound % 2 = 0 := by
  have hbelow := value_share_lt htotal h
  have hsign := isNegative_ofRatio htotal (share_lt_power h).2
  generalize ofRatio false share total = x at hbelow hsign
  have hproduct : ((x.ratio.1 * 100 : Nat) : ℚ) / x.ratio.2 = 100 * x.value := by
    rw [← ratio_eq, Nat.cast_mul, Nat.cast_ofNat]
    ring
  have hsize : ((x.ratio.1 * 100 : Nat) : ℚ) / x.ratio.2 < power 1023 := by
    rw [hproduct]
    refine lt_power_of_le ?_
    have hseven : power 7 = 2 ^ 7 := power_natCast 7
    rw [power_neg_52] at hbelow
    rw [hseven]
    norm_num at hbelow
    linarith
  have hiff := le_value_ofRatio_iff x.ratio_den_pos hsize bound hlow hhigh (-46) (by decide)
  rw [hproduct, ← mul_assoc, show (2 * 100 : ℚ) = 200 by norm_num] at hiff
  rw [timesNat, hsign]
  exact hiff

/-- No share is more than a hundred percent. -/
theorem percentOf_le (htotal : 0 < total) (h : share ≤ total) :
    percentOf (ofRatio false share total) ≤ 100 := by
  have hbelow := value_share_lt htotal h
  have hiff := le_value_timesNat_iff htotal h (201 * 2 ^ 45) (by decide) (by decide)
  rw [power_neg_52] at hbelow
  rw [power_neg_46] at hiff
  refine Nat.le_of_lt_succ (Nat.not_le.mp fun hmore => ?_)
  have hreached : ((201 * 2 ^ 45 : Nat) : ℚ) * (1 / 2 ^ 46)
      ≤ ((ofRatio false share total).timesNat 100).value := by
    rcases (le_percentOf_iff _ 101).mp hmore with hless | ⟨hequal, -⟩
    · norm_num at hless ⊢
      linarith
    · norm_num at hequal ⊢
      linarith
  rcases hiff.mp hreached with hless | ⟨hequal, -⟩
  · norm_num at hless hbelow
    linarith
  · norm_num at hequal hbelow
    linarith

/-- The significand of the number that is nearest to 995 in a thousand. -/
def hundredSignificand : Nat := 8962163258467287

/-- A share is reported as a hundred percent from the number on that is nearest to 995 in a
thousand. -/
theorem hundred_le_percentOf_iff (htotal : 0 < total) (h : share ≤ total) :
    100 ≤ percentOf (ofRatio false share total) ↔
      hundredSignificand * power (-53) ≤ (ofRatio false share total).value := by
  have hiff := le_value_timesNat_iff htotal h (199 * 2 ^ 45) (by decide) (by decide)
  have hmultiple := exists_value_share htotal h
  rw [le_percentOf_iff]
  rw [power_neg_46] at hiff
  rw [power_neg_53, power_neg_one] at hmultiple
  rw [power_neg_53]
  generalize (ofRatio false share total).value = x at hiff hmultiple
  generalize ((ofRatio false share total).timesNat 100).value = y at hiff
  have hbound : ((199 * 2 ^ 45 : Nat) : ℚ) = 199 * 2 ^ 45 := by norm_num
  rw [hbound] at hiff
  have hproduct : (2 * (100 : Nat) - 1 : ℚ) < 2 * y
        ∨ (2 * (100 : Nat) - 1 : ℚ) = 2 * y ∧ 100 % 2 = 0
      ↔ 199 * 2 ^ 45 * (1 / 2 ^ 46) ≤ y := by
    have hmiddle : (199 * 2 ^ 45 * (1 / 2 ^ 46) : ℚ) = 199 / 2 := by norm_num
    have htwice : (2 * (100 : Nat) - 1 : ℚ) = 199 := by norm_num
    rw [hmiddle, htwice, and_iff_left rfl, ← le_iff_lt_or_eq, div_le_iff₀' two_pos]
  rw [hproduct, hiff, and_iff_left (by decide), ← le_iff_lt_or_eq]
  constructor
  · intro hreached
    -- The share is a multiple of the last digit, and the next multiple is the number.
    obtain ⟨n, hn⟩ := hmultiple (by norm_num at hreached; linarith)
    have hnext : (hundredSignificand : ℚ) < n + 1 := by
      rw [hn] at hreached
      norm_num at hreached
      rw [hundredSignificand, Nat.cast_ofNat]
      linarith
    have hnumber : hundredSignificand ≤ n := Nat.le_of_lt_succ (by exact_mod_cast hnext)
    rw [hn]
    exact mul_le_mul_of_nonneg_right (Nat.cast_le.mpr hnumber) (by positivity)
  · intro hnumber
    norm_num [hundredSignificand] at hnumber ⊢
    linarith

/-- **When a share is reported as a hundred percent**, by its terms. -/
theorem percentOf_eq_hundred_iff (htotal : 0 < total) (h : share ≤ total) :
    percentOf (ofRatio false share total) = 100 ↔
      (2 * hundredSignificand - 1) * total < 2 ^ 54 * share := by
  have hiff := le_value_ofRatio_iff htotal (share_lt_power h).2 hundredSignificand (by decide)
    (by decide) (-53) (by decide)
  have hodd : ¬ hundredSignificand % 2 = 0 := by decide
  have hpos : (0 : ℚ) < total := Nat.cast_pos.mpr htotal
  have hexact : percentOf (ofRatio false share total) = 100
      ↔ 100 ≤ percentOf (ofRatio false share total) :=
    ⟨Eq.ge, Nat.le_antisymm (percentOf_le htotal h)⟩
  rw [hexact, hundred_le_percentOf_iff htotal h, hiff, or_iff_left fun hmiddle => hodd hmiddle.2,
    power_neg_53, ← mul_div_assoc 2, lt_div_iff₀ hpos, ← Nat.cast_lt (α := ℚ)]
  have hmiddle : ((2 * hundredSignificand - 1 : Nat) : ℚ) = 2 * hundredSignificand - 1 := by
    norm_num [hundredSignificand]
  push_cast
  rw [hmiddle]
  constructor <;> intro hless <;> linarith

end Percent

end Binary64

namespace Coverage

open Binary64 (percentOf percentOf_le percentOf_eq_hundred_iff hundredSignificand)

variable {c : Coverage}

theorem share_of_none (h : c.total = 0) : c.share = Binary64.ofRatio false 1 1 :=
  if_pos h

theorem share_of_some (h : c.total ≠ 0) :
    c.share = Binary64.ofRatio false (c.total - c.missing.length) c.total :=
  if_neg h

theorem percent_le (c : Coverage) : c.percent ≤ 100 := by
  change percentOf c.share ≤ 100
  rcases Nat.eq_zero_or_pos c.total with hnone | hsome
  · rw [share_of_none hnone]
    exact percentOf_le one_pos le_rfl
  · rw [share_of_some hsome.ne']
    exact percentOf_le hsome (Nat.sub_le _ _)

/-- **When a coverage is reported as a hundred percent**: without symbols, or if the
undocumented ones are no more than half a percent. The number is 2 ^ 54 over two hundred but
for the error of the roundings. -/
theorem percent_eq_hundred_iff (h : c.missing.length ≤ c.total) :
    c.percent = 100 ↔ c.total = 0 ∨ 2 ^ 54 * c.missing.length < 90071992547411 * c.total := by
  change percentOf c.share = 100 ↔ _
  have hnumber : 2 * hundredSignificand - 1 = 17924326516934573 := rfl
  rcases Nat.eq_zero_or_pos c.total with hnone | hsome
  · rw [share_of_none hnone, percentOf_eq_hundred_iff one_pos le_rfl, hnumber]
    exact iff_of_true (by decide) (.inl hnone)
  · rw [share_of_some hsome.ne', percentOf_eq_hundred_iff hsome (Nat.sub_le _ _), hnumber]
    omega

/-- Half a percent of undocumented symbols are not seen in the percentage. -/
theorem percent_of_le (h : 200 * c.missing.length ≤ c.total) : c.percent = 100 := by
  rw [percent_eq_hundred_iff (by omega)]
  omega

/-- Up to so many symbols, more than half a percent are seen. -/
theorem percent_eq_hundred_iff_of_le (h : c.missing.length ≤ c.total) (htotal : c.total ≤ 2 ^ 46) :
    c.percent = 100 ↔ 200 * c.missing.length ≤ c.total := by
  rw [percent_eq_hundred_iff h]
  omega

/-- The text of a percentage is that of a hundred exactly if the percentage is. -/
theorem percentText_eq_iff (c : Coverage) : c.percentText = "100%" ↔ c.percent = 100 := by
  have hdigits : ∀ p ≤ 100, toString p ++ "%" = "100%" → p = 100 := by decide +kernel
  constructor
  · exact hdigits c.percent c.percent_le
  · intro h
    rw [percentText, h]
    decide

end Coverage

end SymbolDocs
