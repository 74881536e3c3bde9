import HubSpoke.Json.Reader

/-!
# Plain scalars of YAML

What a scalar without quotes means: null, a truth value, a number, or else its own text.
`needsQuotes` holds of the texts that would be taken for something other than a text, or that are
numbers but for a superfluous zero; those are written in quotes.
-/

namespace HubSpoke.Yaml

/-! ## Null and truth values -/

def nullSpellings : List String := ["null", "Null", "NULL", "~"]

/-- The spellings of a truth value. -/
def boolSpellings : Bool → List String
  | true => ["true", "True", "TRUE"]
  | false => ["false", "False", "FALSE"]

/-- The truth value a scalar spells. -/
def bool? (scalar : String) : Option Bool :=
  [true, false].find? fun value => (boolSpellings value).contains scalar

/-! ## Numbers -/

/-- The value of a digit of a radix. -/
def digitOf? (radix : Nat) (c : Char) : Option Nat :=
  (Json.hexDigit? c).filter (· < radix)

/-- The number that digits of a radix spell. -/
def natural? (radix : Nat) (digits : List Char) : Option Nat :=
  if digits.isEmpty then none
  else digits.foldlM (fun value c => (digitOf? radix c).map (value * radix + ·)) 0

/-- The number that digits spell, in decimal or after the mark of another radix. -/
def magnitude? : List Char → Option Nat
  | '0' :: 'x' :: digits => natural? 16 digits
  | '0' :: 'o' :: digits => natural? 8 digits
  | '0' :: 'b' :: digits => natural? 2 digits
  | digits => natural? 10 digits

/-- A sign, if there is one, and the rest. -/
def splitSign : List Char → Bool × List Char
  | '-' :: rest => (true, rest)
  | '+' :: rest => (false, rest)
  | chars => (false, chars)

/-- The scalar is made of digits and starts with a superfluous zero, which makes it a text. -/
def isPadded (scalar : List Char) : Bool :=
  match (splitSign scalar).2 with
  | '0' :: c :: rest => (c :: rest).all Char.isDigit
  | _ => false

/-- The least and greatest whole numbers that are spelled digit by digit: signed or unsigned
128-bit. -/
def inSpelledRange (n : Int) : Bool :=
  -170141183460469231731687303715884105728 ≤ n ∧ n < 340282366920938463463374607431768211456

/-- The whole number a scalar spells. -/
def whole? (scalar : List Char) : Option Int :=
  let (negative, chars) := splitSign scalar
  if isPadded scalar then none
  else ((magnitude? chars).map fun n => if negative then -(n : Int) else n).filter inSpelledRange

/-- The digits of a fraction and a power of ten after its mark, as `(digits, places, power)`. -/
def decimalParts? (chars : List Char) : Option (Nat × Nat × Int) := do
  let isMark (c : Char) : Bool := c = 'e' ∨ c = 'E'
  let mantissa := chars.takeWhile fun c => !isMark c
  let whole := mantissa.takeWhile (· != '.')
  let fraction := mantissa.drop (whole.length + 1)
  let digits ← natural? 10 (whole ++ fraction)
  let power ← if mantissa.length = chars.length then some (0 : Int) else
    let (negative, digits) := splitSign (chars.drop (mantissa.length + 1))
    (natural? 10 digits).map fun n => if negative then -(n : Int) else n
  return (digits, fraction.length, power)

/-- The binary64 number a scalar spells. -/
def float? (scalar : List Char) : Option Binary64 := do
  if isPadded scalar then none
  let (negative, chars) := splitSign scalar
  let (digits, places, power) ← decimalParts? chars
  Binary64.ofDecimal? negative digits (power - places)

/-- Infinity, or the value that is no number: a document holds null in their place. -/
def isBeyondNumbers (scalar : String) : Bool :=
  [".inf", ".Inf", ".INF", "+.inf", "+.Inf", "+.INF", "-.inf", "-.Inf", "-.INF",
    ".nan", ".NaN", ".NAN"].contains scalar

/-! ## Scalars -/

/-- The value of a scalar without quotes.  A whole number that is spelled digit by digit has none
when it does not fit into 64 bits. -/
def valueOfPlain? (scalar : String) : Option Json :=
  if scalar.isEmpty ∨ nullSpellings.contains scalar ∨ isBeyondNumbers scalar then some .null
  else match bool? scalar, whole? scalar.toList, float? scalar.toList with
    | some value, _, _ => some (.bool value)
    | none, some n, _ => if Json.inWholeRange n then some (.int n) else none
    | none, none, some x => some (.float x)
    | none, none, none => some (.str scalar)

/-- A text that is written in quotes because of what it spells without them. -/
def needsQuotes (text : String) : Bool :=
  valueOfPlain? text != some (.str text) || isPadded text.toList

/-- A scalar of a document. -/
structure Scalar where
  text : String
  /-- It is a text whatever it spells, since it stands in quotes or in a text block. -/
  isQuoted : Bool
deriving DecidableEq, Repr

/-- The value of a scalar, if it has one. -/
def Scalar.value? (scalar : Scalar) : Option Json :=
  if scalar.isQuoted then some (.str scalar.text) else valueOfPlain? scalar.text

end HubSpoke.Yaml
