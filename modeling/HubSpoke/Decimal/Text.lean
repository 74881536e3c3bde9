import HubSpoke.Decimal.Shortest

/-!
# The written form of a number

A number is written from its shortest decimal, positionally while its leading exponent lies in a
range and in scientific form outside it.  The formats in use differ only in the fields of
`FloatFormat`.
-/

namespace HubSpoke

/-- The choices a written form leaves open. -/
structure FloatFormat where
  /-- The least leading exponent written positionally. -/
  leastPositional : Int
  /-- The greatest leading exponent written positionally. -/
  greatestPositional : Int
  /-- Whether a positional whole number ends in `.0`. -/
  keepsPoint : Bool
  /-- Whether the sign of a zero is written. -/
  keepsZeroSign : Bool
  /-- Whether a power of ten that is not negative carries a plus. -/
  signsPower : Bool
deriving DecidableEq, Repr

/-- The format of ordinary documents and messages: `1.0`, `0.00001`, `1e+16`, `-0.0`. -/
def FloatFormat.ordinary : FloatFormat := ⟨-5, 15, true, true, true⟩

/-- The format of YAML documents: as in ordinary ones, but `1e16`. -/
def FloatFormat.bare : FloatFormat := ⟨-5, 15, true, true, false⟩

/-- The format of canonical documents: `1`, `0.000001`, `1e+21`, and `0` for either zero. -/
def FloatFormat.canonical : FloatFormat := ⟨-6, 20, false, false, true⟩

namespace FloatFormat

/-- The decimal with its point in place. -/
def positional (format : FloatFormat) (d : Decimal) : List Char :=
  let digits := d.digitChars
  let whole := if format.keepsPoint then ['.', '0'] else []
  if 0 ≤ d.exponent then
    digits ++ List.replicate d.exponent.toNat '0' ++ whole
  else
    let places := (-d.exponent).toNat
    if places < digits.length then
      digits.take (digits.length - places) ++ '.' :: digits.drop (digits.length - places)
    else
      ['0', '.'] ++ List.replicate (places - digits.length) '0' ++ digits

/-- The decimal as one leading digit, a fraction and a power of ten. -/
def scientific (format : FloatFormat) (d : Decimal) : List Char :=
  let exponent := d.leadingExponent
  let fraction := match d.digitChars with
    | [] => []
    | [leading] => [leading]
    | leading :: rest => leading :: '.' :: rest
  let sign := if exponent < 0 then ['-'] else if format.signsPower then ['+'] else []
  fraction ++ 'e' :: (sign ++ Nat.toDigits 10 exponent.natAbs)

/-- The written form of a number. -/
def write (format : FloatFormat) (x : Binary64) : List Char :=
  if x.isZero then
    (if x.negative ∧ format.keepsZeroSign then ['-'] else []) ++ format.positional ⟨0, 0⟩
  else
    let d := x.shortest
    let exponent := d.leadingExponent
    let magnitude :=
      if format.leastPositional ≤ exponent ∧ exponent ≤ format.greatestPositional then
        format.positional d
      else format.scientific d
    (if x.negative then ['-'] else []) ++ magnitude

end FloatFormat

end HubSpoke
