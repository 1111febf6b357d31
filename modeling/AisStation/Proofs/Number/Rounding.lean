import Mathlib.Algebra.Order.Field.Power
import Mathlib.Data.Rat.Cast.Order
import Mathlib.Tactic.FieldSimp
import Mathlib.Tactic.GCongr
import Mathlib.Tactic.Linarith
import Mathlib.Tactic.Positivity
import Mathlib.Tactic.Ring
import AisStation.Message.Quantity

/-!
# Rounding to double precision

A finite number in double precision is a rational. A ratio that is rounded to such a number differs
from it by at most the part `2 ^ -53` of the ratio, as long as the result has 53 significant bits,
that is from `2 ^ -1022` on; an integer of at most 53 bits is not changed at all. So tenths are off
by the one rounding of their division.
-/

namespace AisStation

/-! ## Nearest integers -/

/-- The nearest integer is half a unit off at most. -/
theorem abs_roundRatio_sub_le (num : Nat) {den : Nat} (hden : 0 < den) :
    |(roundRatio num den : ℚ) - num / den| ≤ 1 / 2 := by
  have hpos : (0 : ℚ) < den := by
    exact_mod_cast hden
  have hsplit : (num : ℚ) / den = (num / den : Nat) + (num % den : Nat) / den := by
    rw [div_eq_iff hpos.ne', add_mul, div_mul_cancel₀ _ hpos.ne']
    exact_mod_cast (Nat.div_add_mod' num den).symm
  have hnear : roundRatio num den = num / den ∧ 2 * (num % den) ≤ den ∨
      roundRatio num den = num / den + 1 ∧ den ≤ 2 * (num % den) := by
    unfold roundRatio
    dsimp only
    split_ifs <;> omega
  rw [hsplit, abs_le]
  have hrest : (0 : ℚ) ≤ (num % den : Nat) / den := by positivity
  have hone : ((num % den : Nat) : ℚ) / den ≤ 1 := by
    rw [div_le_one hpos]
    exact_mod_cast (Nat.mod_lt num hden).le
  rcases hnear with ⟨hround, hhalf⟩ | ⟨hround, hhalf⟩
  · have hhalf : ((num % den : Nat) : ℚ) / den ≤ 1 / 2 := by
      rw [div_le_iff₀ hpos]
      have : (2 * (num % den : Nat) : ℚ) ≤ den := by
        exact_mod_cast hhalf
      linarith
    rw [hround]
    constructor <;> linarith
  · have hhalf : (1 / 2 : ℚ) ≤ (num % den : Nat) / den := by
      rw [le_div_iff₀ hpos]
      have : (den : ℚ) ≤ 2 * (num % den : Nat) := by
        exact_mod_cast hhalf
      linarith
    rw [hround, Nat.cast_add, Nat.cast_one]
    constructor <;> linarith

theorem roundRatio_one (n : Nat) : roundRatio n 1 = n := by
  simp [roundRatio, Nat.mod_one]

namespace Binary64

/-- The rational that a finite number is. -/
def value? : Binary64 → Option ℚ
  | finite negative significand exponent =>
    let magnitude : ℚ := significand * 2 ^ exponent
    some (if negative then -magnitude else magnitude)
  | infinite _ | nan => none

/-! ## Exponents -/

/-- Scaling a ratio divides it by the power of two. -/
theorem scaleDown_eq (num : Nat) {den : Nat} (hden : 0 < den) (exponent : Int) :
    0 < (scaleDown num den exponent).2 ∧
      ((scaleDown num den exponent).1 : ℚ) / (scaleDown num den exponent).2 =
        num / den / 2 ^ exponent := by
  have hpos : (0 : ℚ) < den := by
    exact_mod_cast hden
  obtain ⟨n, rfl | rfl⟩ := exponent.eq_nat_or_neg
  · have hscale : scaleDown num den n = (num, den * 2 ^ n) := by
      simp [scaleDown]
    rw [hscale, zpow_natCast]
    refine ⟨Nat.mul_pos hden (Nat.two_pow_pos n), ?_⟩
    push_cast
    rw [div_div]
  · have hscale : scaleDown num den (-n) = (num * 2 ^ n, den) := by
      simp [scaleDown]
    rw [hscale, zpow_neg, zpow_natCast]
    refine ⟨hden, ?_⟩
    push_cast
    field_simp

/-- The logarithms of its parts bound a ratio from below. -/
theorem two_zpow_le_ratio {num den : Nat} (hnum : 0 < num) (hden : 0 < den) :
    (2 : ℚ) ^ ((num.log2 : Int) - den.log2 - 1) ≤ num / den := by
  have hnumLow : (2 : ℚ) ^ (num.log2 : Int) ≤ num := by
    exact_mod_cast Nat.log2_self_le hnum.ne'
  have hdenHigh : (den : ℚ) ≤ 2 ^ (den.log2 + 1 : Int) := by
    have hlt := Nat.lt_log2_self (n := den)
    exact_mod_cast hlt.le
  have hpos : (0 : ℚ) < den := by
    exact_mod_cast hden
  rw [le_div_iff₀ hpos]
  calc (2 : ℚ) ^ ((num.log2 : Int) - den.log2 - 1) * den
      ≤ 2 ^ ((num.log2 : Int) - den.log2 - 1) * 2 ^ (den.log2 + 1 : Int) := by gcongr
    _ = 2 ^ (num.log2 : Int) := by
      rw [← zpow_add₀ two_ne_zero]
      congr 1
      omega
    _ ≤ num := hnumLow

/-- Scaled by its exponent a ratio has 53 bits at least, unless the exponent is the least one. -/
theorem ratioExponent_spec {num den : Nat} (hnum : 0 < num) (hden : 0 < den) :
    ratioExponent num den = leastExponent ∨
      (2 : ℚ) ^ (52 + ratioExponent num den) ≤ num / den := by
  have hratio := two_zpow_le_ratio hnum hden
  unfold ratioExponent
  dsimp only
  generalize hlow : max ((num.log2 : Int) - den.log2 - 53) leastExponent = low
  split_ifs with htest
  · right
    obtain ⟨hden', hscaled⟩ := scaleDown_eq num hden low
    have hpos : (0 : ℚ) < (scaleDown num den low).2 := by
      exact_mod_cast hden'
    have hlarge : (2 : ℚ) ^ (53 : Int) * (scaleDown num den low).2 ≤ (scaleDown num den low).1 := by
      exact_mod_cast (Nat.le_div_iff_mul_le hden').mp htest
    rw [← le_div_iff₀ hpos, hscaled, le_div_iff₀ (by positivity)] at hlarge
    calc (2 : ℚ) ^ (52 + (low + 1)) = 2 ^ (53 : Int) * 2 ^ low := by
          rw [← zpow_add₀ two_ne_zero]
          congr 1
          omega
      _ ≤ num / den := hlarge
  · by_cases hleast : low = leastExponent
    · exact .inl hleast
    · right
      calc (2 : ℚ) ^ (52 + low) ≤ 2 ^ ((num.log2 : Int) - den.log2 - 1) :=
            zpow_le_zpow_right₀ one_le_two (by omega)
        _ ≤ num / den := hratio

/-! ## Ratios -/

/-- A ratio of normal size becomes the integer nearest to it, once it is scaled. -/
theorem ofRatio_eq {num den : Nat} (negative : Bool) (hnum : 0 < num) (hden : 0 < den)
    (hhigh : (num / den : ℚ) < 2 ^ (1023 : Int)) :
    ∃ significand exponent, ofRatio negative num den = finite negative significand exponent ∧
      (significand * 2 ^ exponent : ℚ) =
        roundRatio (scaleDown num den (ratioExponent num den)).1
          (scaleDown num den (ratioExponent num den)).2 * 2 ^ ratioExponent num den := by
  have hle : ratioExponent num den < greatestExponent := by
    rcases ratioExponent_spec hnum hden with hleast | hsize
    · rw [hleast]
      decide
    · have hlt := (zpow_lt_zpow_iff_right₀ (one_lt_two : (1 : ℚ) < 2)).mp (hsize.trans_lt hhigh)
      unfold greatestExponent
      omega
  unfold ofRatio
  rw [if_neg hnum.ne']
  dsimp only
  split_ifs with hcarry hinfinite hinfinite
  · omega
  · refine ⟨_, _, rfl, ?_⟩
    rw [hcarry, zpow_add_one₀ two_ne_zero]
    push_cast
    ring
  · omega
  · exact ⟨_, _, rfl, rfl⟩

/-- The rounding of a ratio takes away or adds at most its part `2 ^ -53`. -/
theorem value?_ofRatio {num den : Nat} (negative : Bool) (hden : 0 < den)
    (hlow : num = 0 ∨ (2 : ℚ) ^ (-1022 : Int) ≤ num / den)
    (hhigh : (num / den : ℚ) < 2 ^ (1023 : Int)) :
    ∃ v : ℚ, (ofRatio negative num den).value? = some (if negative then -v else v) ∧
      |v - num / den| ≤ num / den / 2 ^ 53 := by
  rcases Nat.eq_zero_or_pos num with rfl | hnum
  · exact ⟨0, by simp [ofRatio, value?], by simp⟩
  · obtain ⟨significand, exponent, hrounded, hvalue⟩ := ofRatio_eq negative hnum hden hhigh
    have hexponent := ratioExponent_spec hnum hden
    generalize ratioExponent num den = e at hvalue hexponent
    obtain ⟨hscaled, hratio⟩ := scaleDown_eq num hden e
    have hnear := abs_roundRatio_sub_le (scaleDown num den e).1 hscaled
    generalize (roundRatio (scaleDown num den e).1 (scaleDown num den e).2 : ℚ) = r at hvalue hnear
    rw [hratio] at hnear
    have hsize : (2 : ℚ) ^ (52 + e) ≤ num / den := by
      rcases hexponent with rfl | hsize
      · exact hlow.resolve_left hnum.ne'
      · exact hsize
    have hunit : (0 : ℚ) < 2 ^ e := by positivity
    refine ⟨significand * 2 ^ exponent, by rw [hrounded, value?], ?_⟩
    calc |(significand * 2 ^ exponent : ℚ) - num / den|
        = |r - num / den / 2 ^ e| * 2 ^ e := by
          rw [hvalue, ← abs_of_pos hunit, ← abs_mul, abs_of_pos hunit, sub_mul,
            div_mul_cancel₀ _ hunit.ne']
      _ ≤ 1 / 2 * 2 ^ e := by gcongr
      _ = 2 ^ (52 + e) / 2 ^ 53 := by
          rw [zpow_add₀ two_ne_zero]
          norm_num
          ring
      _ ≤ num / den / 2 ^ 53 := by gcongr

/-- An integer of at most 53 bits is a number of double precision itself. -/
theorem ofRatio_one {n : Nat} (negative : Bool) (h : n < 2 ^ 53) :
    ∃ significand exponent, ofRatio negative n 1 = finite negative significand exponent ∧
      (significand * 2 ^ exponent : ℚ) = n := by
  rcases Nat.eq_zero_or_pos n with rfl | hn
  · exact ⟨0, leastExponent, by rw [ofRatio, if_pos rfl], by simp⟩
  · have hlt : (n : ℚ) / (1 : Nat) < 2 ^ (53 : Int) := by
      rw [Nat.cast_one, div_one]
      exact_mod_cast h
    obtain ⟨significand, exponent, hrounded, hvalue⟩ := ofRatio_eq negative hn one_pos
      (hlt.trans_le (zpow_le_zpow_right₀ one_le_two (by decide)))
    refine ⟨significand, exponent, hrounded, ?_⟩
    have hexponent := ratioExponent_spec hn one_pos
    generalize ratioExponent n 1 = e at hvalue hexponent
    -- The unit of the significand is one or less, so nothing is rounded.
    have he : e ≤ 0 := by
      rcases hexponent with rfl | hsize
      · decide
      · have hle := (zpow_lt_zpow_iff_right₀ (one_lt_two : (1 : ℚ) < 2)).mp (hsize.trans_lt hlt)
        omega
    have hden : (scaleDown n 1 e).2 = 1 := by
      simp [scaleDown, Int.toNat_of_nonpos he]
    obtain ⟨-, hratio⟩ := scaleDown_eq n one_pos e
    rw [hden, Nat.cast_one, div_one, div_one] at hratio
    rw [hvalue, hden, roundRatio_one, hratio, div_mul_cancel₀ _ (by positivity)]

theorem ofInt_eq {n : Int} (h : n.natAbs < 2 ^ 53) :
    ∃ significand exponent, ofInt n = .ok (finite (n < 0) significand exponent) ∧
      (significand * 2 ^ exponent : ℚ) = n.natAbs := by
  obtain ⟨significand, exponent, hrounded, hvalue⟩ := ofRatio_one (decide (n < 0)) h
  exact ⟨significand, exponent, by rw [ofInt, hrounded], hvalue⟩

/-- The quotient of two finite numbers is their ratio, rounded. -/
theorem div_eq (negative negative' : Bool) (m : Nat) {m' : Nat} (hm' : 0 < m') (e e' : Int) :
    ∃ num den, (finite negative m e).div (finite negative' m' e') =
        ofRatio (negative != negative') num den ∧
      0 < den ∧ (num / den : ℚ) = m * 2 ^ e / (m' * 2 ^ e') := by
  obtain ⟨hden, hratio⟩ := scaleDown_eq m hm' (e' - e)
  refine ⟨(scaleDown m m' (e' - e)).1, (scaleDown m m' (e' - e)).2, ?_, hden, ?_⟩
  · rw [div, if_neg hm'.ne', scaleDown, neg_sub]
  · rw [hratio, zpow_sub₀ two_ne_zero, div_div_div_eq]

end Binary64

/-! ## Tenths -/

/-- A number of tenths is off by the rounding of one division. -/
theorem Quantity.tenths_eq {raw : Int} (h : raw.natAbs < 2 ^ 53) :
    ∃ x v, tenths raw = .ok x ∧ x.value? = some v ∧ |v - raw / 10| ≤ |(raw : ℚ) / 10| / 2 ^ 53 := by
  obtain ⟨m, e, hraw, hvalue⟩ := Binary64.ofInt_eq h
  obtain ⟨m', e', hten, hten'⟩ := Binary64.ofRatio_one false (by decide : 10 < 2 ^ 53)
  have hm' : 0 < m' := by
    rcases Nat.eq_zero_or_pos m' with rfl | hpos
    · norm_num at hten'
    · exact hpos
  obtain ⟨num, den, hdiv, hden, hratio⟩ := Binary64.div_eq (decide (raw < 0)) false m hm' e e'
  have hquotient : tenths raw = .ok (Binary64.ofRatio (decide (raw < 0)) num den) := by
    rw [Bool.bne_false] at hdiv
    rw [← hdiv, tenths, ratio, hraw, hten]
    rfl
  rw [hvalue, hten', Nat.cast_ofNat] at hratio
  have hlow : num = 0 ∨ (2 : ℚ) ^ (-1022 : Int) ≤ num / den := by
    rcases Nat.eq_zero_or_pos raw.natAbs with hzero | hpos
    · rw [hzero, Nat.cast_zero, zero_div, div_eq_zero_iff, Nat.cast_eq_zero,
        Nat.cast_eq_zero] at hratio
      exact .inl (hratio.resolve_right hden.ne')
    · have hone : (1 : ℚ) ≤ raw.natAbs := by
        exact_mod_cast hpos
      right
      calc (2 : ℚ) ^ (-1022 : Int) ≤ 2 ^ (-4 : Int) := zpow_le_zpow_right₀ one_le_two (by decide)
        _ ≤ 1 / 10 := by norm_num
        _ ≤ num / den := by rw [hratio]; gcongr
  have hhigh : (num / den : ℚ) < 2 ^ (1023 : Int) := by
    have hbits : (raw.natAbs : ℚ) < 2 ^ (53 : Int) := by
      exact_mod_cast h
    calc (num / den : ℚ) ≤ raw.natAbs := by
          rw [hratio]
          exact div_le_self (by positivity) (by norm_num)
      _ < 2 ^ (53 : Int) := hbits
      _ ≤ 2 ^ (1023 : Int) := zpow_le_zpow_right₀ one_le_two (by decide)
  obtain ⟨v, hv, hnear⟩ := Binary64.value?_ofRatio (decide (raw < 0)) hden hlow hhigh
  refine ⟨_, _, hquotient, hv, ?_⟩
  have habs : |(raw : ℚ) / 10| = raw.natAbs / 10 := by
    rw [abs_div, Nat.cast_natAbs, Int.cast_abs, abs_of_pos (by norm_num : (0 : ℚ) < 10)]
  rw [hratio] at hnear
  rw [habs]
  by_cases hneg : raw < 0
  · have hsign : (raw : ℚ) / 10 = -(raw.natAbs / 10) := by
      rw [Nat.cast_natAbs, abs_of_neg hneg, Int.cast_neg, neg_div, neg_neg]
    rwa [if_pos (decide_eq_true hneg), hsign, neg_sub_neg, abs_sub_comm]
  · have hsign : (raw : ℚ) / 10 = raw.natAbs / 10 := by
      rw [Nat.cast_natAbs, abs_of_nonneg (Int.not_lt.mp hneg)]
    rwa [if_neg (by simpa using hneg), hsign]

end AisStation
