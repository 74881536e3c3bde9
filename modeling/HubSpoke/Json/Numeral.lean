import HubSpoke.Decimal.Text
import HubSpoke.Json.Basic

/-!
# Numerals of JSON text

A numeral is collected one character at a time.  `NumeralDraft.extend?` follows the grammar: an
optional minus, digits without a leading zero, an optional fraction and an optional power of ten.
`Numeral.value?` gives its value: whole numerals that fit 64 bits are whole numbers, and all others
are floats.

Which float such a numeral is read as is a parameter, `FloatReading`, because readers of JSON
promise no more than their best effort: a fast one may miss the nearest float by its last place.
Nothing but the choice of the float depends on it.  `FloatReading.nearest` is the reading in use
where no other is given.
-/

namespace HubSpoke.Json

/-- A complete numeral, read as `± digits · 10 ^ (exponent - places)`. -/
structure Numeral where
  negative : Bool
  digits : Nat
  /-- The number of digits after the point. -/
  places : Nat
  exponent : Int
  /-- Neither a fraction nor a power of ten is written. -/
  isWhole : Bool
deriving DecidableEq, Repr

/-- The least and greatest whole numbers: signed or unsigned 64-bit. -/
def inWholeRange (n : Int) : Bool :=
  -9223372036854775808 ≤ n ∧ n < 18446744073709551616

/-- How far a numeral has been read. -/
inductive NumeralPhase where
  /-- After the minus sign. -/
  | sign
  /-- After a leading zero. -/
  | zero
  /-- Inside the digits before the point. -/
  | whole
  /-- After the point. -/
  | point
  /-- Inside the digits after the point. -/
  | fraction
  /-- After the exponent mark. -/
  | mark
  /-- After the sign of the exponent. -/
  | markSign
  /-- Inside the digits of the exponent. -/
  | power
deriving DecidableEq, Repr

/-- The part of a numeral that has been read. -/
structure NumeralDraft where
  phase : NumeralPhase
  negative : Bool
  digits : Nat
  places : Nat
  powerNegative : Bool
  power : Nat
deriving DecidableEq, Repr

namespace NumeralDraft

/-- The value of a decimal digit. -/
def digit? (c : Char) : Option Nat :=
  if c.isDigit then some (c.toNat - '0'.toNat) else none

/-- The draft that a first character opens. -/
def start? (c : Char) : Option NumeralDraft :=
  if c = '-' then some ⟨.sign, true, 0, 0, false, 0⟩
  else if c = '0' then some ⟨.zero, false, 0, 0, false, 0⟩
  else (digit? c).map fun d => ⟨.whole, false, d, 0, false, 0⟩

/-- A point or an exponent mark after the digits before the point. -/
def afterWhole? (draft : NumeralDraft) (c : Char) : Option NumeralDraft :=
  if c = '.' then some { draft with phase := .point }
  else if c = 'e' ∨ c = 'E' then some { draft with phase := .mark }
  else none

/-- One more digit after the point. -/
def withFraction (draft : NumeralDraft) (d : Nat) : NumeralDraft :=
  { draft with phase := .fraction, digits := draft.digits * 10 + d, places := draft.places + 1 }

/-- One more digit of the power of ten. -/
def withPower (draft : NumeralDraft) (d : Nat) : NumeralDraft :=
  { draft with phase := .power, power := draft.power * 10 + d }

/-- The draft with one more character, or nothing when the character cannot continue it. -/
def extend? (draft : NumeralDraft) (c : Char) : Option NumeralDraft :=
  match draft.phase with
  | .sign =>
      if c = '0' then some { draft with phase := .zero }
      else (digit? c).map fun d => { draft with phase := .whole, digits := d }
  | .zero => draft.afterWhole? c
  | .whole => match digit? c with
      | some d => some { draft with digits := draft.digits * 10 + d }
      | none => draft.afterWhole? c
  | .point => (digit? c).map draft.withFraction
  | .fraction => match digit? c with
      | some d => some (draft.withFraction d)
      | none => if c = 'e' ∨ c = 'E' then some { draft with phase := .mark } else none
  | .mark =>
      if c = '+' then some { draft with phase := .markSign }
      else if c = '-' then some { draft with phase := .markSign, powerNegative := true }
      else (digit? c).map draft.withPower
  | .markSign => (digit? c).map draft.withPower
  | .power => (digit? c).map draft.withPower

/-- The numeral a draft amounts to when no more characters follow. -/
def finish? (draft : NumeralDraft) : Option Numeral :=
  let exponent : Int := if draft.powerNegative then -(draft.power : Int) else draft.power
  match draft.phase with
  | .zero | .whole => some ⟨draft.negative, draft.digits, 0, 0, true⟩
  | .fraction | .power => some ⟨draft.negative, draft.digits, draft.places, exponent, false⟩
  | .sign | .point | .mark | .markSign => none

/-- The draft with more characters. -/
def extendAll? (draft : NumeralDraft) (chars : List Char) : Option NumeralDraft :=
  chars.foldlM extend? draft

/-- The draft that a numeral's characters amount to. -/
def ofChars? : List Char → Option NumeralDraft
  | [] => none
  | c :: rest => (start? c).bind (extendAll? · rest)

end NumeralDraft

/-! ## Values -/

/-- The numeral that characters spell. -/
def Numeral.spelled? (chars : List Char) : Option Numeral :=
  (NumeralDraft.ofChars? chars).bind NumeralDraft.finish?

/-- The float nearest to a numeral, unless its magnitude is out of range. -/
def Numeral.nearest? (n : Numeral) : Option Binary64 :=
  Binary64.ofDecimal? n.negative n.digits (n.exponent - n.places)

/-- How numerals other than whole numbers of 64 bits are read. -/
class FloatReading where
  /-- The float a numeral is read as.  One that is too large has none. -/
  read? : Numeral → Option Binary64
  /-- Of the numerals that canonical text shows of floats, none within range is too large. -/
  isSome_read? {x : Binary64} {n : Numeral} :
    Numeral.spelled? (FloatFormat.canonical.write x) = some n → n.nearest?.isSome →
      (read? n).isSome

/-- The reading that always finds the nearest float. -/
instance FloatReading.nearest : FloatReading := ⟨Numeral.nearest?, fun _ h => h⟩

/-- The value of a numeral.  Minus zero is the floating-point one. -/
def Numeral.value? [FloatReading] (n : Numeral) : Option Json :=
  let whole : Int := if n.negative then -(n.digits : Int) else n.digits
  if n.isWhole ∧ inWholeRange whole ∧ ¬(n.negative ∧ n.digits = 0) then some (.int whole)
  else (FloatReading.read? n).map .float

end HubSpoke.Json
