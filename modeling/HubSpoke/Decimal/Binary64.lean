/-!
# Finite double-precision numbers

A finite binary64 number is a sign, a significand and a power of two, kept in the one form its
encoding allows, so equal numbers have equal fields and the two zeros stay apart.  Numbers are
reached from exact fractions by rounding to the nearest, ties to even; `ofRatio?` and `ofDecimal?`
answer nothing when the rounded magnitude exceeds the largest finite number.
-/

namespace HubSpoke

/-- The significands and scales of finite numbers: 53 bits, with the leading bit set unless the
scale is the least one. -/
def Binary64.Canonical (significand : Nat) (scale : Int) : Prop :=
  significand < Nat.pow 2 53 ∧ -1074 ≤ scale ∧ scale ≤ 971 ∧
    (Nat.pow 2 52 ≤ significand ∨ scale = -1074)

instance (significand : Nat) (scale : Int) : Decidable (Binary64.Canonical significand scale) := by
  unfold Binary64.Canonical; infer_instance

/-- The number `± significand · 2 ^ scale`. -/
structure Binary64 where
  negative : Bool
  significand : Nat
  scale : Int
  canonical : Binary64.Canonical significand scale
deriving DecidableEq, Repr

namespace Binary64

/-- Zero with the given sign. -/
def zero (negative : Bool) : Binary64 :=
  ⟨negative, 0, -1074, by decide⟩

instance : Inhabited Binary64 := ⟨zero false⟩

/-- Either of the two zeros. -/
def isZero (x : Binary64) : Bool :=
  x.significand = 0

/-- The number itself, with the sign of a zero dropped.  Two numbers compare equal exactly when
their images agree. -/
def unsigned (x : Binary64) : Binary64 :=
  if x.isZero then zero false else x

/-! ## Rounding -/

/-- The integer nearest to `num / den`, the even one of two equally near. -/
def roundHalfEven (num den : Nat) : Nat :=
  let quotient := num / den
  let twice := 2 * (num % den)
  if twice < den ∨ (twice = den ∧ quotient % 2 = 0) then quotient else quotient + 1

/-- The fraction `num / den` divided by `2 ^ scale`. -/
def scaled (num den : Nat) (scale : Int) : Nat × Nat :=
  (num * Nat.pow 2 (-scale).toNat, den * Nat.pow 2 scale.toNat)

/-- The exponent `e` with `2 ^ e ≤ num / den < 2 ^ (e + 1)`, for a positive fraction: the
difference of the two logarithms is at most one too large. -/
def exponentOf (num den : Nat) : Int :=
  let estimate := (num.log2 : Int) - den.log2
  let (n, d) := scaled num den estimate
  if d ≤ n then estimate else estimate - 1

/-- The number nearest to `± num / den`, or nothing when that is infinite. -/
def ofRatio? (negative : Bool) (num den : Nat) : Option Binary64 :=
  let scale := max (-1074) (exponentOf num den - 52)
  let (n, d) := scaled num den scale
  let rounded := roundHalfEven n d
  let (significand, scale) :=
    if rounded = Nat.pow 2 53 then (Nat.pow 2 52, scale + 1) else (rounded, scale)
  if h : Canonical significand scale then some ⟨negative, significand, scale, h⟩ else none

/-- The number nearest to `± digits · 10 ^ exponent`.  Magnitudes far outside the range are told
by their count of digits alone, so no power of ten is built for them. -/
def ofDecimal? (negative : Bool) (digits : Nat) (exponent : Int) : Option Binary64 :=
  let magnitude := ((Nat.toDigits 10 digits).length : Int) + exponent
  if digits = 0 ∨ magnitude < -400 then some (zero negative)
  else if 400 < magnitude then none
  else ofRatio? negative (digits * Nat.pow 10 exponent.toNat) (Nat.pow 10 (-exponent).toNat)

end Binary64

end HubSpoke
