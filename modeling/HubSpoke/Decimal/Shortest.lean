import HubSpoke.Decimal.Binary64

/-!
# The shortest decimal of a number

`Binary64.shortest` gives the decimal with the fewest digits that reads back as the number, and of
two such the nearer one.  Every candidate is tested by reading it back, so whatever is answered
reads back: the digits come either from a tested candidate or from the exact expansion.
-/

namespace HubSpoke

/-- The non-negative decimal `digits · 10 ^ exponent`. -/
structure Decimal where
  digits : Nat
  exponent : Int
deriving DecidableEq, Repr, Inhabited

namespace Decimal

/-- The digits of the significand, from the leading one. -/
def digitChars (d : Decimal) : List Char :=
  Nat.toDigits 10 d.digits

/-- The power of ten of the leading digit. -/
def leadingExponent (d : Decimal) : Int :=
  (d.digitChars.length : Int) - 1 + d.exponent

/-- The same value without zeros at the end, stripping at most as many as the bound allows. -/
def stripZeros : Nat → Decimal → Decimal
  | 0, d => d
  | bound + 1, d =>
      if d.digits ≠ 0 ∧ d.digits % 10 = 0 then stripZeros bound ⟨d.digits / 10, d.exponent + 1⟩
      else d

/-- The same value with as few digits as possible. -/
def normalized (d : Decimal) : Decimal :=
  stripZeros d.digitChars.length d

end Decimal

namespace Binary64

/-- The magnitude of a number as an exact decimal. -/
def exactDecimal (x : Binary64) : Decimal :=
  if 0 ≤ x.scale then ⟨x.significand * Nat.pow 2 x.scale.toNat, 0⟩
  else ⟨x.significand * Nat.pow 5 (-x.scale).toNat, x.scale⟩

/-- Reading the decimal gives the number. -/
def readsBack (x : Binary64) (d : Decimal) : Bool :=
  ofDecimal? x.negative d.digits d.exponent == some x

/-- The decimal that is best among those with `count` digits, if one of them reads back.  Only the
two neighbours of the exact value on that grid can be nearest. -/
def ofDigitCount? (x : Binary64) (exact : Decimal) (count : Nat) : Option Decimal :=
  let size := exact.digitChars.length
  if size ≤ count then some exact
  else
    let unit := Nat.pow 10 (size - count)
    let exponent := exact.exponent + ((size - count : Nat) : Int)
    let below : Decimal := ⟨exact.digits / unit, exponent⟩
    let above : Decimal := ⟨exact.digits / unit + 1, exponent⟩
    let twice := 2 * (exact.digits % unit)
    let (nearer, farther) :=
      if twice < unit ∨ (twice = unit ∧ below.digits % 2 = 0) then (below, above)
      else (above, below)
    if x.readsBack nearer then some nearer
    else if x.readsBack farther then some farther
    else none

/-- The shortest decimal that reads back as the number; seventeen digits always suffice, and the
exact expansion stands behind them. -/
def shortest (x : Binary64) : Decimal :=
  let exact := x.exactDecimal
  (((List.range 17).findSome? fun before => x.ofDigitCount? exact (before + 1)).getD exact).normalized

end Binary64

end HubSpoke
