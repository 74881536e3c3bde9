import HubSpoke.Decimal.Binary64
import Mathlib.Data.Int.Log
import Mathlib.Data.Rat.Floor
import Mathlib.Tactic.FieldSimp
import Mathlib.Tactic.Linarith
import Mathlib.Tactic.NormNum
import Mathlib.Tactic.Ring

/-!
# Rounding fractions and decimals

Rounding depends on the value of a fraction only, not on how it is written: multiplying both parts
by a number changes nothing (`ofRatio?_mul`), and a zero may move from the digits of a decimal to
its power of ten (`ofDecimal?_mul_ten`).  A number that is exactly representable is rounded to
itself (`ofRatio?_exact`).
-/

namespace HubSpoke.Binary64

/-! ## The exponent of a fraction -/

theorem scaled_pos {num den : Nat} (hden : 0 < den) (scale : Int) : 0 < (scaled num den scale).2 :=
  Nat.mul_pos hden (Nat.pow_pos (by decide))

/-- The value of a scaled fraction. -/
theorem scaled_div {num den : Nat} (hden : 0 < den) (scale : Int) :
    ((scaled num den scale).1 : ℚ) / (scaled num den scale).2 = num / den / (2 : ℚ) ^ scale := by
  have hdenq : (den : ℚ) ≠ 0 := by exact_mod_cast hden.ne'
  rcases Int.eq_nat_or_neg scale with ⟨k, rfl | rfl⟩
  · simp [scaled, zpow_natCast, div_div]
  · simp [scaled, zpow_neg, zpow_natCast]
    field_simp

theorem le_scaled_iff {num den : Nat} (hden : 0 < den) (scale : Int) :
    (scaled num den scale).2 ≤ (scaled num den scale).1 ↔ (2 : ℚ) ^ scale ≤ num / den := by
  have hpos : (0 : ℚ) < (scaled num den scale).2 := by exact_mod_cast scaled_pos hden scale
  have hpow : (0 : ℚ) < (2 : ℚ) ^ scale := zpow_pos (by norm_num) scale
  rw [← Nat.cast_le (α := ℚ), ← one_le_div hpos, scaled_div hden, one_le_div hpow]

/-- The exponent of a positive fraction is the floor of its binary logarithm. -/
theorem exponentOf_eq_log {num den : Nat} (hnum : 0 < num) (hden : 0 < den) :
    exponentOf num den = Int.log 2 ((num : ℚ) / den) := by
  have hpos : (0 : ℚ) < num / den := by positivity
  have hnumLower : (2 : ℚ) ^ num.log2 ≤ num := by exact_mod_cast Nat.log2_self_le hnum.ne'
  have hnumUpper : (num : ℚ) < 2 ^ (num.log2 + 1) := by exact_mod_cast Nat.lt_log2_self
  have hdenLower : (2 : ℚ) ^ den.log2 ≤ den := by exact_mod_cast Nat.log2_self_le hden.ne'
  have hdenUpper : (den : ℚ) < 2 ^ (den.log2 + 1) := by exact_mod_cast Nat.lt_log2_self
  have hdenq : (0 : ℚ) < den := by exact_mod_cast hden
  have hlower : (num.log2 : Int) - (den.log2 + 1 : Nat) ≤ Int.log 2 ((num : ℚ) / den) := by
    rw [← Int.zpow_le_iff_le_log (by decide) hpos, Nat.cast_ofNat, zpow_sub₀ (by norm_num),
      zpow_natCast, zpow_natCast]
    exact div_le_div₀ (by positivity) hnumLower hdenq hdenUpper.le
  have hupper : Int.log 2 ((num : ℚ) / den) < (num.log2 + 1 : Nat) - (den.log2 : Int) := by
    rw [← Int.lt_zpow_iff_log_lt (by decide) hpos, Nat.cast_ofNat, zpow_sub₀ (by norm_num),
      zpow_natCast, zpow_natCast]
    exact div_lt_div₀ hnumUpper hdenLower (by positivity) (by positivity)
  have hestimate := (@le_scaled_iff num den hden ((num.log2 : Int) - den.log2)).trans
    (Int.zpow_le_iff_le_log (b := 2) (by decide) hpos)
  simp only [exponentOf]
  split
  case isTrue hle =>
    have := hestimate.mp hle
    omega
  case isFalse hlt =>
    have := fun h => hlt (hestimate.mpr h)
    omega

/-- The exponent depends on the value of the fraction only. -/
theorem exponentOf_mul {num den factor : Nat} (hnum : 0 < num) (hden : 0 < den)
    (hfactor : 0 < factor) : exponentOf (num * factor) (den * factor) = exponentOf num den := by
  have hfactorq : (factor : ℚ) ≠ 0 := by exact_mod_cast hfactor.ne'
  rw [exponentOf_eq_log (Nat.mul_pos hnum hfactor) (Nat.mul_pos hden hfactor),
    exponentOf_eq_log hnum hden, Nat.cast_mul, Nat.cast_mul, mul_div_mul_right _ _ hfactorq]

/-! ## Rounding fractions -/

theorem roundHalfEven_mul (num den : Nat) {factor : Nat} (hfactor : 0 < factor) :
    roundHalfEven (num * factor) (den * factor) = roundHalfEven num den := by
  have htwice : 2 * (num * factor % (den * factor)) = 2 * (num % den) * factor := by
    rw [Nat.mul_mod_mul_right, Nat.mul_assoc]
  simp only [roundHalfEven, htwice, Nat.mul_div_mul_right _ _ hfactor,
    Nat.mul_lt_mul_right hfactor, Nat.mul_right_cancel_iff hfactor]

/-- Rounding depends on the value of the fraction only. -/
theorem ofRatio?_mul {num den factor : Nat} (hnum : 0 < num) (hden : 0 < den)
    (hfactor : 0 < factor) (negative : Bool) :
    ofRatio? negative (num * factor) (den * factor) = ofRatio? negative num den := by
  have hscaled (scale : Int) : scaled (num * factor) (den * factor) scale =
      ((scaled num den scale).1 * factor, (scaled num den scale).2 * factor) := by
    simp only [scaled, Nat.mul_right_comm]
  simp only [ofRatio?, exponentOf_mul hnum hden hfactor, hscaled, roundHalfEven_mul _ _ hfactor]

theorem roundHalfEven_exact (value : Nat) {den : Nat} (hden : 0 < den) :
    roundHalfEven (value * den) den = value := by
  simp [roundHalfEven, Nat.mul_div_cancel _ hden, hden]

/-- The exponent of a finite number other than zero. -/
theorem log_of_canonical {significand : Nat} {scale : Int} (h : Canonical significand scale)
    (hpos : 0 < significand) :
    max (-1074) (Int.log 2 ((significand : ℚ) * (2 : ℚ) ^ scale) - 52) = scale := by
  obtain ⟨hlt, hleast, -, hleading⟩ := h
  have hpow : (0 : ℚ) < (2 : ℚ) ^ scale := zpow_pos (by norm_num) scale
  have hvalue : (0 : ℚ) < significand * (2 : ℚ) ^ scale :=
    mul_pos (by exact_mod_cast hpos) hpow
  have hupper : Int.log 2 ((significand : ℚ) * (2 : ℚ) ^ scale) < 53 + scale := by
    rw [← Int.lt_zpow_iff_log_lt (by decide) hvalue, Nat.cast_ofNat, zpow_add₀ (by norm_num)]
    exact mul_lt_mul_of_pos_right (by exact_mod_cast hlt) hpow
  rcases hleading with hbit | rfl
  · have hlower : 52 + scale ≤ Int.log 2 ((significand : ℚ) * (2 : ℚ) ^ scale) := by
      rw [← Int.zpow_le_iff_le_log (by decide) hvalue, Nat.cast_ofNat, zpow_add₀ (by norm_num)]
      exact mul_le_mul_of_nonneg_right (by exact_mod_cast hbit) hpow.le
    omega
  · omega

/-- A fraction that is a finite number is rounded to it. -/
theorem ofRatio?_exact {x : Binary64} {num den : Nat} (hpos : 0 < x.significand) (hden : 0 < den)
    (hexact : (scaled num den x.scale).1 = x.significand * (scaled num den x.scale).2) :
    ofRatio? x.negative num den = some x := by
  have hscaledPos := @scaled_pos num den hden x.scale
  have hpow : (2 : ℚ) ^ x.scale ≠ 0 := (zpow_pos (by norm_num) x.scale).ne'
  have hvalue : (num : ℚ) / den = x.significand * (2 : ℚ) ^ x.scale := by
    have hdiv := @scaled_div num den hden x.scale
    rw [hexact, Nat.cast_mul, mul_div_cancel_right₀ _ (by exact_mod_cast hscaledPos.ne')] at hdiv
    rw [hdiv, div_mul_cancel₀ _ hpow]
  have hnum : 0 < num := by
    refine Nat.pos_of_ne_zero fun hzero => ?_
    rw [hzero, scaled, Nat.zero_mul] at hexact
    exact absurd hexact (Nat.mul_pos hpos hscaledPos).ne
  have hscale : max (-1074) (exponentOf num den - 52) = x.scale := by
    rw [exponentOf_eq_log hnum hden, hvalue, log_of_canonical x.canonical hpos]
  have hfits : x.significand ≠ Nat.pow 2 53 := x.canonical.1.ne
  simp only [ofRatio?, hscale, hexact, roundHalfEven_exact _ hscaledPos, if_neg hfits,
    dif_pos x.canonical]

/-! ## Rounding decimals -/

theorem length_toDigits_mul_ten {digits : Nat} (hdigits : 0 < digits) :
    (Nat.toDigits 10 (digits * 10)).length = (Nat.toDigits 10 digits).length + 1 := by
  rw [Nat.toDigits_of_base_le (by decide) (by omega), Nat.mul_div_cancel _ (by decide)]
  simp

/-- A zero may move from the digits to the power of ten. -/
theorem ofDecimal?_mul_ten (negative : Bool) {digits : Nat} (hdigits : 0 < digits)
    (exponent : Int) :
    ofDecimal? negative (digits * 10) exponent = ofDecimal? negative digits (exponent + 1) := by
  have hlength : (((Nat.toDigits 10 (digits * 10)).length : Nat) : Int) + exponent =
      ((Nat.toDigits 10 digits).length : Int) + (exponent + 1) := by
    rw [length_toDigits_mul_ten hdigits]
    omega
  have hratio : ofRatio? negative (digits * 10 * Nat.pow 10 exponent.toNat)
        (Nat.pow 10 (-exponent).toNat) =
      ofRatio? negative (digits * Nat.pow 10 (exponent + 1).toNat)
        (Nat.pow 10 (-(exponent + 1)).toNat) := by
    simp only [Nat.pow_eq]
    -- a negative power of ten stands below the line, where the zero cancels
    rcases Int.eq_nat_or_neg exponent with ⟨k, rfl | rfl⟩
    · have hden : (-((k : Int) + 1)).toNat = (-(k : Int)).toNat := by omega
      have hnum : ((k : Int) + 1).toNat = (k : Int).toNat + 1 := by omega
      rw [hden, hnum, Nat.pow_succ, Nat.mul_assoc, Nat.mul_comm 10]
    · cases k with
      | zero => simp
      | succ k =>
          have hnum : (-((k + 1 : Nat) : Int)).toNat = 0 := by omega
          have hnum' : (-((k + 1 : Nat) : Int) + 1).toNat = 0 := by omega
          have hden : (- -((k + 1 : Nat) : Int)).toNat = k + 1 := by omega
          have hden' : (-(-((k + 1 : Nat) : Int) + 1)).toNat = k := by omega
          have hmul : ofRatio? negative (digits * 10) (10 ^ k * 10) =
              ofRatio? negative digits (10 ^ k) :=
            ofRatio?_mul hdigits (Nat.pow_pos (by decide)) (by decide) negative
          rw [hnum, hnum', hden, hden', Nat.pow_zero, Nat.mul_one, Nat.mul_one, Nat.pow_succ, hmul]
  have hzero : digits * 10 = 0 ↔ digits = 0 := by omega
  simp only [ofDecimal?, hlength, hratio, hzero]

/-- Zeros may move from the digits to the power of ten. -/
theorem ofDecimal?_mul_pow (negative : Bool) {digits : Nat} (hdigits : 0 < digits) (zeros : Nat)
    (exponent : Int) :
    ofDecimal? negative (digits * 10 ^ zeros) exponent =
      ofDecimal? negative digits (exponent + zeros) := by
  induction zeros generalizing exponent with
  | zero => simp
  | succ zeros ih =>
      rw [Nat.pow_succ, ← Nat.mul_assoc,
        ofDecimal?_mul_ten negative (Nat.mul_pos hdigits (Nat.pow_pos (by decide))), ih]
      congr 1
      omega

end HubSpoke.Binary64
