import HubSpoke.Decimal.Shortest
import HubSpoke.Proofs.Decimal.Binary64

/-!
# Decimals that read back

The exact decimal of a finite number reads back (`readsBack_exactDecimal`), every other candidate is
tested, and stripping zeros does not change what a decimal reads as.  So the shortest decimal of a
number reads back.
-/

namespace HubSpoke.Binary64

variable {x : Binary64}

/-! ## The exact decimal -/

theorem readsBack_iff {d : Decimal} :
    x.readsBack d ↔ ofDecimal? x.negative d.digits d.exponent = some x := by
  simp [readsBack]

/-- Decimals within the range are rounded as fractions. -/
theorem ofDecimal?_of_bounds {digits : Nat} {exponent : Int} (hdigits : 0 < digits)
    (hleast : -400 ≤ ((Nat.toDigits 10 digits).length : Int) + exponent)
    (hgreatest : ((Nat.toDigits 10 digits).length : Int) + exponent ≤ 400) (negative : Bool) :
    ofDecimal? negative digits exponent =
      ofRatio? negative (digits * 10 ^ exponent.toNat) (10 ^ (-exponent).toNat) := by
  have hsmall : ¬(digits = 0 ∨ ((Nat.toDigits 10 digits).length : Int) + exponent < -400) := by
    omega
  have hlarge : ¬400 < ((Nat.toDigits 10 digits).length : Int) + exponent := by omega
  simp only [ofDecimal?, if_neg hsmall, if_neg hlarge, Nat.pow_eq]

theorem two_pow_lt_ten_pow {n m : Nat} (hm : 0 < m) (h : n ≤ 3 * m) : 2 ^ n < 10 ^ m :=
  calc 2 ^ n ≤ 2 ^ (3 * m) := Nat.pow_le_pow_right (by decide) h
    _ = 8 ^ m := by rw [Nat.pow_mul]
    _ < 10 ^ m := Nat.pow_lt_pow_left (by decide) hm.ne'

/-- The greatest finite number has fewer than 400 digits. -/
theorem length_digits_of_nonneg {k : Nat} (hk : k ≤ 971) :
    (Nat.toDigits 10 (x.significand * 2 ^ k)).length ≤ 400 := by
  rw [Nat.length_toDigits_le_iff (by decide) (by decide)]
  calc x.significand * 2 ^ k ≤ 2 ^ 53 * 2 ^ k := Nat.mul_le_mul_right _ x.canonical.1.le
    _ = 2 ^ (53 + k) := by rw [Nat.pow_add]
    _ < 10 ^ 400 := two_pow_lt_ten_pow (by decide) (by omega)

/-- A number below one has about as many digits as its exact decimal has places. -/
theorem length_digits_of_neg (hpos : 0 < x.significand) {k : Nat} (hk : k ≤ 1074) :
    k ≤ (Nat.toDigits 10 (x.significand * 5 ^ k)).length + 400 ∧
      (Nat.toDigits 10 (x.significand * 5 ^ k)).length ≤ 400 + k := by
  constructor
  · by_contra hfew
    have hlength : (Nat.toDigits 10 (x.significand * 5 ^ k)).length ≤ k - 401 := by omega
    have hone : 0 < (Nat.toDigits 10 (x.significand * 5 ^ k)).length := Nat.length_toDigits_pos
    rw [Nat.length_toDigits_le_iff (by decide) (by omega)] at hlength
    have hsplit : 10 ^ (k - 401) * 10 ^ 401 = 5 ^ k * 2 ^ k := by
      rw [← Nat.pow_add, Nat.sub_add_cancel (by omega), ← Nat.mul_pow]
    have hpower : 2 ^ k < 10 ^ 401 := two_pow_lt_ten_pow (by decide) (by omega)
    have hlarge : 5 ^ k * 10 ^ 401 < 5 ^ k * 10 ^ 401 :=
      calc 5 ^ k * 10 ^ 401 ≤ x.significand * 5 ^ k * 10 ^ 401 :=
            Nat.mul_le_mul_right _ (Nat.le_mul_of_pos_left _ hpos)
        _ < 10 ^ (k - 401) * 10 ^ 401 := Nat.mul_lt_mul_of_pos_right hlength (by positivity)
        _ = 5 ^ k * 2 ^ k := hsplit
        _ < 5 ^ k * 10 ^ 401 := Nat.mul_lt_mul_of_pos_left hpower (by positivity)
    exact lt_irrefl _ hlarge
  · rw [Nat.length_toDigits_le_iff (by decide) (by omega), Nat.pow_add]
    have hsignificand : x.significand < 10 ^ 400 :=
      calc x.significand < 2 ^ 53 := x.canonical.1
        _ < 10 ^ 400 := two_pow_lt_ten_pow (by decide) (by omega)
    calc x.significand * 5 ^ k ≤ x.significand * 10 ^ k :=
          Nat.mul_le_mul_left _ (Nat.pow_le_pow_left (by decide) k)
      _ < 10 ^ 400 * 10 ^ k := Nat.mul_lt_mul_of_pos_right hsignificand (Nat.pow_pos (by decide))

/-- The exact decimal of a number other than zero reads back. -/
theorem readsBack_exactDecimal (hpos : 0 < x.significand) : x.readsBack x.exactDecimal := by
  obtain ⟨-, hleast, hgreatest, -⟩ := x.canonical
  rw [readsBack_iff]
  by_cases hsign : 0 ≤ x.scale
  · obtain ⟨k, hscale⟩ := Int.eq_ofNat_of_zero_le hsign
    have hlength : (Nat.toDigits 10 (x.significand * 2 ^ k)).length ≤ 400 :=
      length_digits_of_nonneg (by omega)
    have hexact : x.exactDecimal = ⟨x.significand * 2 ^ k, 0⟩ := by
      rw [exactDecimal, if_pos hsign, hscale]
      rfl
    rw [hexact]
    dsimp only
    rw [ofDecimal?_of_bounds (Nat.mul_pos hpos (by positivity)) (by omega) (by omega)]
    refine ofRatio?_exact hpos (by positivity) ?_
    simp [scaled, hscale]
  · -- a power of two below the line is a power of five above a power of ten
    obtain ⟨k, hscale⟩ : ∃ k : Nat, x.scale = -(k : Int) := ⟨(-x.scale).toNat, by omega⟩
    have hlength := length_digits_of_neg hpos (k := k) (by omega)
    have hexact : x.exactDecimal = ⟨x.significand * 5 ^ k, -(k : Int)⟩ := by
      rw [exactDecimal, if_neg hsign, hscale]
      simp
    rw [hexact]
    dsimp only
    rw [ofDecimal?_of_bounds (Nat.mul_pos hpos (by positivity)) (by omega) (by omega)]
    refine ofRatio?_exact hpos (by positivity) ?_
    have hten : 10 ^ k = 5 ^ k * 2 ^ k := by rw [← Nat.mul_pow]
    simp [scaled, hscale, hten, Nat.mul_assoc]

/-! ## Candidates -/

theorem readsBack_stripZeros (bound : Nat) {d : Decimal}
    (h : x.readsBack d) : x.readsBack (d.stripZeros bound) := by
  induction bound generalizing d with
  | zero => exact h
  | succ bound ih =>
      rw [Decimal.stripZeros]
      split
      case isTrue hzero =>
        refine ih (readsBack_iff.mpr ?_)
        have hpositive : 0 < d.digits / 10 := by
          obtain ⟨hne, hlast⟩ := hzero
          omega
        have hdigits : d.digits / 10 * 10 = d.digits :=
          Nat.div_mul_cancel (Nat.dvd_of_mod_eq_zero hzero.2)
        rw [← ofDecimal?_mul_ten _ hpositive, hdigits]
        exact readsBack_iff.mp h
      case isFalse => exact h

/-- Every candidate has been tested, but for the exact decimal. -/
theorem readsBack_ofDigitCount? {exact d : Decimal} {count : Nat} (hexact : x.readsBack exact)
    (h : x.ofDigitCount? exact count = some d) : x.readsBack d := by
  simp only [ofDigitCount?] at h
  -- either the exact decimal is short enough, or one of its two roundings was tested
  split at h
  · exact Option.some.inj h ▸ hexact
  · split at h
    all_goals
      split at h
      · exact Option.some.inj h ▸ ‹_›
      · split at h
        · exact Option.some.inj h ▸ ‹_›
        · cases h

/-- The shortest decimal of a number other than zero reads back. -/
theorem readsBack_shortest (hpos : 0 < x.significand) : x.readsBack x.shortest := by
  have hexact := readsBack_exactDecimal hpos
  refine readsBack_stripZeros _ ?_
  cases hfound : (List.range 17).findSome? fun before =>
      x.ofDigitCount? x.exactDecimal (before + 1) with
  | none => exact hexact
  | some d =>
      obtain ⟨before, -, hcount⟩ := List.exists_of_findSome?_eq_some hfound
      exact readsBack_ofDigitCount? hexact hcount

/-- A decimal that reads back as a number other than zero has digits. -/
theorem digits_pos_of_readsBack (hpos : 0 < x.significand) {d : Decimal} (h : x.readsBack d) :
    0 < d.digits := by
  refine Nat.pos_of_ne_zero fun hzero => ?_
  have hread := readsBack_iff.mp h
  simp only [ofDecimal?, hzero, true_or, if_true] at hread
  have hsignificand : 0 = x.significand := congrArg Binary64.significand (Option.some.inj hread)
  exact absurd hpos (by omega)

end HubSpoke.Binary64
