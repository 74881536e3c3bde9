import HubSpoke.Json.Text
import HubSpoke.Proofs.Decimal.Shortest
import HubSpoke.Proofs.Json.Document

/-!
# Numbers in canonical texts

The canonical text of a number is a numeral.  Its value is the number again where that is a whole
number.  A float whose canonical text shows neither point nor power of ten is read as a whole number
where one of 64 bits holds it, and any other as what the reading makes of its numeral.
`Binary64.respelled` says what a float is read as.  With the nearest reading the floats that are
not shown as whole numbers come back as they were (`Binary64.reread_nearest`).
-/

namespace HubSpoke

/-- A magnitude with a sign. -/
def withSign (negative : Bool) (magnitude : Nat) : Int :=
  if negative then -(magnitude : Int) else magnitude

theorem withSign_natAbs (n : Int) : withSign (n < 0) n.natAbs = n := by
  by_cases hneg : n < 0
  · rw [withSign, if_pos (decide_eq_true hneg)]
    omega
  · rw [withSign, if_neg (by simpa using hneg)]
    omega

namespace Binary64

/-- The whole number that the digits of a float show where none of them is behind the point. -/
def shownWhole (x : Binary64) : Int :=
  withSign x.negative (x.shortest.digits * 10 ^ x.shortest.exponent.toNat)

variable [Json.FloatReading]

/-- The float that the numeral in the canonical text of a float is read as. -/
def reread (x : Binary64) : Binary64 :=
  ((Json.Numeral.spelled? (FloatFormat.canonical.write x)).bind Json.FloatReading.read?).getD x

/-- What the canonical text of a float is read as. -/
def respelled (x : Binary64) : Json :=
  if x.isZero then .int 0
  else if 0 ≤ x.shortest.exponent ∧ x.shortest.leadingExponent ≤ 20 ∧
      Json.inWholeRange x.shownWhole then .int x.shownWhole
  else .float x.reread

theorem numeric_respelled : Json.Numeric respelled := by
  intro x
  rw [respelled]
  split
  · exact .inl ⟨_, rfl⟩
  · split
    · exact .inl ⟨_, rfl⟩
    · exact .inr ⟨_, rfl⟩

end Binary64

namespace Json

/-- The digits of a positive number begin with one other than zero. -/
theorem exists_leading_digit {n : Nat} (hn : 0 < n) :
    ∃ lead rest, Nat.toDigits 10 n = lead :: rest ∧ lead ≠ '0' ∧
      (∀ c ∈ lead :: rest, c.isDigit) ∧ Nat.ofDigitChars 10 (lead :: rest) 0 = n := by
  have hleading : ∃ lead rest, Nat.toDigits 10 n = lead :: rest ∧ lead ≠ '0' := by
    induction n using Nat.strongRecOn with
    | ind n ih =>
        by_cases hsmall : n < 10
        · have hdigit : ∀ d < 10, 0 < d → Nat.digitChar d ≠ '0' := by decide
          exact ⟨n.digitChar, [], Nat.toDigits_of_lt_base hsmall, hdigit n hsmall hn⟩
        · obtain ⟨lead, rest, hdigits, hlead⟩ := ih (n / 10) (by omega) (by omega)
          refine ⟨lead, rest ++ Nat.toDigits 10 (n % 10), ?_, hlead⟩
          rw [Nat.toDigits_of_base_le (by decide) (by omega), hdigits]
          simp [Nat.toDigits_of_lt_base (Nat.mod_lt n (by decide : 0 < 10))]
  obtain ⟨lead, rest, hdigits, hlead⟩ := hleading
  refine ⟨lead, rest, hdigits, hlead, fun c hc => ?_, ?_⟩
  · exact Nat.isDigit_of_mem_toDigits (by decide) (by decide) (hdigits ▸ hc)
  · rw [← hdigits, Nat.ofDigitChars_ten_toDigits]

namespace NumeralDraft

/-! ## Runs of digits -/

@[simp] theorem extendAll?_nil (draft : NumeralDraft) : draft.extendAll? [] = some draft := rfl

@[simp] theorem extendAll?_cons (draft : NumeralDraft) (c : Char) (chars : List Char) :
    draft.extendAll? (c :: chars) = (draft.extend? c).bind (extendAll? · chars) := rfl

theorem extendAll?_append (draft : NumeralDraft) (chars more : List Char) :
    draft.extendAll? (chars ++ more) = (draft.extendAll? chars).bind (extendAll? · more) := by
  simp [extendAll?]

theorem digit?_of_isDigit {c : Char} (h : c.isDigit) : digit? c = some (c.toNat - '0'.toNat) :=
  if_pos h

variable {chars : List Char} (hdigits : ∀ c ∈ chars, c.isDigit)
  (negative : Bool) (digits places : Nat) (powerNegative : Bool) (power : Nat)

include hdigits

theorem extendAll?_whole :
    extendAll? ⟨.whole, negative, digits, places, powerNegative, power⟩ chars =
      some ⟨.whole, negative, Nat.ofDigitChars 10 chars digits, places, powerNegative, power⟩ := by
  induction chars generalizing digits with
  | nil => rfl
  | cons c chars ih =>
      obtain ⟨hc, hchars⟩ := List.forall_mem_cons.mp hdigits
      simp only [extendAll?_cons, extend?, digit?_of_isDigit hc, Option.bind_some, ih hchars,
        Nat.ofDigitChars_cons, Nat.mul_comm digits]

theorem extendAll?_fraction :
    extendAll? ⟨.fraction, negative, digits, places, powerNegative, power⟩ chars =
      some ⟨.fraction, negative, Nat.ofDigitChars 10 chars digits, places + chars.length,
        powerNegative, power⟩ := by
  induction chars generalizing digits places with
  | nil => rfl
  | cons c chars ih =>
      obtain ⟨hc, hchars⟩ := List.forall_mem_cons.mp hdigits
      simp only [extendAll?_cons, extend?, digit?_of_isDigit hc, Option.bind_some, withFraction,
        ih hchars, Nat.ofDigitChars_cons, Nat.mul_comm digits, List.length_cons, Nat.add_assoc,
        Nat.add_comm 1]

theorem extendAll?_power :
    extendAll? ⟨.power, negative, digits, places, powerNegative, power⟩ chars =
      some ⟨.power, negative, digits, places, powerNegative,
        Nat.ofDigitChars 10 chars power⟩ := by
  induction chars generalizing power with
  | nil => rfl
  | cons c chars ih =>
      obtain ⟨hc, hchars⟩ := List.forall_mem_cons.mp hdigits
      simp only [extendAll?_cons, extend?, digit?_of_isDigit hc, Option.map_some, Option.bind_some,
        withPower, ih hchars, Nat.ofDigitChars_cons, Nat.mul_comm power]

/-- After the point, a digit at least is due. -/
theorem extendAll?_point (hne : chars ≠ []) :
    extendAll? ⟨.point, negative, digits, places, powerNegative, power⟩ chars =
      some ⟨.fraction, negative, Nat.ofDigitChars 10 chars digits, places + chars.length,
        powerNegative, power⟩ := by
  cases chars with
  | nil => exact absurd rfl hne
  | cons c chars =>
      obtain ⟨hc, hchars⟩ := List.forall_mem_cons.mp hdigits
      simp only [extendAll?_cons, extend?, digit?_of_isDigit hc, Option.map_some, Option.bind_some,
        withFraction, extendAll?_fraction hchars, Nat.ofDigitChars_cons, Nat.mul_comm digits,
        List.length_cons, Nat.add_assoc, Nat.add_comm 1]

/-- After the sign of the power, a digit at least is due. -/
theorem extendAll?_markSign (hne : chars ≠ []) :
    extendAll? ⟨.markSign, negative, digits, places, powerNegative, power⟩ chars =
      some ⟨.power, negative, digits, places, powerNegative,
        Nat.ofDigitChars 10 chars power⟩ := by
  cases chars with
  | nil => exact absurd rfl hne
  | cons c chars =>
      obtain ⟨hc, hchars⟩ := List.forall_mem_cons.mp hdigits
      simp only [extendAll?_cons, extend?, digit?_of_isDigit hc, Option.map_some, Option.bind_some,
        withPower, extendAll?_power hchars, Nat.ofDigitChars_cons, Nat.mul_comm power]

omit hdigits

/-! ## The beginning of a numeral -/

/-- The sign of a numeral. -/
def signChars (negative : Bool) : List Char :=
  if negative then ['-'] else []

theorem ofChars?_zero (rest : List Char) :
    ofChars? (signChars negative ++ '0' :: rest) =
      extendAll? ⟨.zero, negative, 0, 0, false, 0⟩ rest := by
  cases negative <;> rfl

theorem ofChars?_leading {lead : Char} (hdigit : lead.isDigit) (hlead : lead ≠ '0')
    (rest : List Char) :
    ofChars? (signChars negative ++ lead :: rest) =
      extendAll? ⟨.whole, negative, lead.toNat - '0'.toNat, 0, false, 0⟩ rest := by
  cases negative with
  | false =>
      have hminus : lead ≠ '-' := by
        rintro rfl
        exact absurd hdigit (by decide)
      simp [signChars, ofChars?, start?, hminus, hlead, digit?_of_isDigit hdigit]
  | true => simp [signChars, ofChars?, start?, extend?, hlead, digit?_of_isDigit hdigit]

/-- Digits that do not begin with a zero. -/
theorem ofChars?_digits {lead : Char} {rest : List Char} (hlead : lead ≠ '0')
    (hdigits : ∀ c ∈ lead :: rest, c.isDigit) (more : List Char) :
    ofChars? (signChars negative ++ (lead :: rest ++ more)) =
      extendAll? ⟨.whole, negative, Nat.ofDigitChars 10 (lead :: rest) 0, 0, false, 0⟩ more := by
  obtain ⟨hdigit, hrest⟩ := List.forall_mem_cons.mp hdigits
  rw [List.cons_append, ofChars?_leading _ hdigit hlead, extendAll?_append, extendAll?_whole hrest]
  simp [Nat.ofDigitChars_cons]

end NumeralDraft

/-! ## Numerals and what they spell -/

open NumeralDraft

/-- The characters spell the numeral. -/
def Numeral.SpelledBy (numeral : Numeral) (chars : List Char) : Prop :=
  ∃ draft, ofChars? chars = some draft ∧ draft.finish? = some numeral

theorem Numeral.spelled?_eq_some_iff {numeral : Numeral} {chars : List Char} :
    Numeral.spelled? chars = some numeral ↔ numeral.SpelledBy chars :=
  Option.bind_eq_some_iff

theorem Numeral.value?_whole [FloatReading] {negative : Bool} {digits : Nat}
    (hrange : inWholeRange (withSign negative digits)) (hzero : ¬(negative ∧ digits = 0)) :
    Numeral.value? ⟨negative, digits, 0, 0, true⟩ = some (.int (withSign negative digits)) :=
  if_pos ⟨rfl, hrange, hzero⟩

theorem Numeral.value?_outOfRange [FloatReading] {negative : Bool} {digits : Nat}
    (hrange : ¬inWholeRange (withSign negative digits)) :
    Numeral.value? ⟨negative, digits, 0, 0, true⟩ =
      (FloatReading.read? ⟨negative, digits, 0, 0, true⟩).map .float :=
  if_neg fun h => hrange h.2.1

theorem Numeral.value?_fraction [FloatReading] {negative : Bool} {digits places : Nat}
    {exponent : Int} :
    Numeral.value? ⟨negative, digits, places, exponent, false⟩ =
      (FloatReading.read? ⟨negative, digits, places, exponent, false⟩).map .float := by
  simp [Numeral.value?]

theorem spelledBy_wholeChars (n : Int) :
    Numeral.SpelledBy ⟨n < 0, n.natAbs, 0, 0, true⟩ (wholeChars n) := by
  have hchars : wholeChars n = signChars (n < 0) ++ Nat.toDigits 10 n.natAbs := by
    by_cases hneg : n < 0 <;> simp [wholeChars, signChars, hneg]
  rw [hchars]
  by_cases hzero : n.natAbs = 0
  · rw [hzero, Nat.toDigits_zero]
    exact ⟨_, ofChars?_zero _ [], rfl⟩
  · obtain ⟨lead, rest, hdigits, hlead, hall, hvalue⟩ :=
      exists_leading_digit (Nat.pos_of_ne_zero hzero)
    have hdraft := ofChars?_digits (n < 0) hlead hall []
    rw [List.append_nil, hvalue] at hdraft
    exact ⟨_, hdigits ▸ hdraft, rfl⟩

section Decimal

variable {d : Decimal} (hpos : 0 < d.digits) (negative : Bool)

theorem isDigit_of_mem_digitChars {c : Char} (hc : c ∈ d.digitChars) : c.isDigit :=
  Nat.isDigit_of_mem_toDigits (by decide) (by decide) hc

/-- The power of ten behind the digits. -/
theorem extendAll?_exponent {phase : NumeralPhase} (hphase : phase = .whole ∨ phase = .fraction)
    (digits places : Nat) (exponent : Int) :
    extendAll? ⟨phase, negative, digits, places, false, 0⟩
        ('e' :: ((if exponent < 0 then ['-'] else ['+']) ++ Nat.toDigits 10 exponent.natAbs)) =
      some ⟨.power, negative, digits, places, exponent < 0, exponent.natAbs⟩ := by
  have hall : ∀ c ∈ Nat.toDigits 10 exponent.natAbs, c.isDigit := fun c hc =>
    Nat.isDigit_of_mem_toDigits (by decide) (by decide) hc
  have hmark : extendAll? ⟨phase, negative, digits, places, false, 0⟩
        ('e' :: ((if exponent < 0 then ['-'] else ['+']) ++ Nat.toDigits 10 exponent.natAbs)) =
      extendAll? ⟨.markSign, negative, digits, places, exponent < 0, 0⟩
        (Nat.toDigits 10 exponent.natAbs) := by
    rcases hphase with rfl | rfl <;> by_cases hneg : exponent < 0 <;> simp only [hneg] <;> rfl
  rw [hmark, extendAll?_markSign hall _ _ _ _ _ Nat.toDigits_ne_nil, Nat.ofDigitChars_ten_toDigits]

theorem spelledBy_of_point {chars after : List Char} {base digits : Nat}
    (hpoint : ofChars? chars = extendAll? ⟨.point, negative, base, 0, false, 0⟩ after)
    (hafter : ∀ c ∈ after, c.isDigit) (hne : after ≠ [])
    (hvalue : Nat.ofDigitChars 10 after base = digits) :
    Numeral.SpelledBy ⟨negative, digits, after.length, 0, false⟩ chars := by
  refine ⟨⟨.fraction, negative, digits, after.length, false, 0⟩, ?_, rfl⟩
  rw [hpoint, extendAll?_point hafter _ _ _ _ _ hne, hvalue, Nat.zero_add]

/-- A point before the digits, with zeros between. -/
theorem spelledBy_positional_before {places : Nat} (hplaces : places ≠ 0)
    (hexponent : d.exponent = -(places : Int)) (hlong : d.digitChars.length ≤ places) :
    Numeral.SpelledBy ⟨negative, d.digits, places, 0, false⟩
      (signChars negative ++ FloatFormat.canonical.positional d) := by
  have hchars : FloatFormat.canonical.positional d =
      '0' :: '.' :: (List.replicate (places - d.digitChars.length) '0' ++ d.digitChars) := by
    have hcount : (-d.exponent).toNat = places := by omega
    simp only [FloatFormat.positional, if_neg (by omega : ¬0 ≤ d.exponent), hcount,
      if_neg (by omega : ¬places < d.digitChars.length)]
    rfl
  rw [hchars]
  generalize hafter : List.replicate (places - d.digitChars.length) '0' ++ d.digitChars = after
  have hall : ∀ c ∈ after, c.isDigit := by
    intro c hc
    rw [← hafter] at hc
    rcases List.mem_append.mp hc with hc | hc
    · rw [(List.mem_replicate.mp hc).2]
      decide
    · exact isDigit_of_mem_digitChars hc
  have hvalue : Nat.ofDigitChars 10 after 0 = d.digits := by
    rw [← hafter, Nat.ofDigitChars_append, Nat.ofDigitChars_replicate_zero, Nat.mul_zero,
      Decimal.digitChars, Nat.ofDigitChars_ten_toDigits]
  have hlength : after.length = places := by
    rw [← hafter, List.length_append, List.length_replicate]
    omega
  have hne : after ≠ [] := List.ne_nil_of_length_pos (by omega)
  have hspelled := spelledBy_of_point negative (ofChars?_zero negative ('.' :: after)) hall hne
    hvalue
  rwa [hlength] at hspelled

include hpos

/-- A decimal without places is written as a whole numeral. -/
theorem spelledBy_positional_whole (hexponent : 0 ≤ d.exponent) :
    Numeral.SpelledBy ⟨negative, d.digits * 10 ^ d.exponent.toNat, 0, 0, true⟩
      (signChars negative ++ FloatFormat.canonical.positional d) := by
  obtain ⟨lead, rest, hdigits, hlead, -⟩ := exists_leading_digit hpos
  have hchars : FloatFormat.canonical.positional d =
      lead :: rest ++ List.replicate d.exponent.toNat '0' := by
    rw [← hdigits]
    simp [FloatFormat.positional, FloatFormat.canonical, hexponent, Decimal.digitChars]
  have hall : ∀ c ∈ lead :: (rest ++ List.replicate d.exponent.toNat '0'), c.isDigit := by
    intro c hc
    rw [← List.cons_append, List.mem_append, ← hdigits] at hc
    rcases hc with hc | hc
    · exact isDigit_of_mem_digitChars hc
    · rw [(List.mem_replicate.mp hc).2]
      decide
  have hvalue : Nat.ofDigitChars 10 (lead :: (rest ++ List.replicate d.exponent.toNat '0')) 0 =
      d.digits * 10 ^ d.exponent.toNat := by
    rw [← List.cons_append, Nat.ofDigitChars_append, ← hdigits, Nat.ofDigitChars_ten_toDigits,
      Nat.ofDigitChars_replicate_zero, Nat.mul_comm]
  have hdraft := ofChars?_digits negative hlead hall []
  rw [List.append_nil, hvalue] at hdraft
  exact ⟨_, by rw [hchars]; exact hdraft, rfl⟩

/-- A point among the digits. -/
theorem spelledBy_positional_inside {places : Nat} (hplaces : places ≠ 0)
    (hexponent : d.exponent = -(places : Int)) (hshort : places < d.digitChars.length) :
    Numeral.SpelledBy ⟨negative, d.digits, places, 0, false⟩
      (signChars negative ++ FloatFormat.canonical.positional d) := by
  obtain ⟨lead, rest, hdigits, hlead, hall, hwhole⟩ := exists_leading_digit hpos
  have hlength : d.digitChars.length = rest.length + 1 := by
    rw [Decimal.digitChars, hdigits, List.length_cons]
  obtain ⟨k, hk⟩ : ∃ k, rest.length = k + places := ⟨rest.length - places, by omega⟩
  have hafterLength : (rest.drop k).length = places := by
    rw [List.length_drop]
    omega
  have hchars : FloatFormat.canonical.positional d = lead :: rest.take k ++ '.' :: rest.drop k := by
    have hcount : (-d.exponent).toNat = places := by omega
    have hsplit : d.digitChars.length - places = k + 1 := by omega
    simp only [FloatFormat.positional, if_neg (by omega : ¬0 ≤ d.exponent), hcount, if_pos hshort,
      hsplit]
    rw [Decimal.digitChars, hdigits, List.take_succ_cons, List.drop_succ_cons]
  have hbefore : ∀ c ∈ lead :: rest.take k, c.isDigit := fun c hc =>
    hall c (List.cons_subset_cons lead (List.take_subset k rest) hc)
  have hafter : ∀ c ∈ rest.drop k, c.isDigit := fun c hc =>
    hall c (List.mem_cons_of_mem _ (List.drop_subset k rest hc))
  have hvalue : Nat.ofDigitChars 10 (rest.drop k)
      (Nat.ofDigitChars 10 (lead :: rest.take k) 0) = d.digits := by
    rw [← Nat.ofDigitChars_append, List.cons_append, List.take_append_drop, hwhole]
  have hne : rest.drop k ≠ [] := List.ne_nil_of_length_pos (by omega)
  have hspelled := spelledBy_of_point negative
    (ofChars?_digits negative hlead hbefore ('.' :: rest.drop k)) hafter hne hvalue
  rwa [hafterLength, ← hchars] at hspelled

/-- A decimal with places is written with a point. -/
theorem spelledBy_positional_point (hexponent : d.exponent < 0) :
    Numeral.SpelledBy ⟨negative, d.digits, (-d.exponent).toNat, 0, false⟩
      (signChars negative ++ FloatFormat.canonical.positional d) := by
  have hplaces : d.exponent = -((-d.exponent).toNat : Int) := by omega
  rcases Nat.lt_or_ge (-d.exponent).toNat d.digitChars.length with hshort | hlong
  · exact spelledBy_positional_inside hpos negative (by omega) hplaces hshort
  · exact spelledBy_positional_before negative (by omega) hplaces hlong

/-- A decimal in scientific form. -/
theorem spelledBy_scientific :
    Numeral.SpelledBy ⟨negative, d.digits, d.digitChars.length - 1, d.leadingExponent, false⟩
      (signChars negative ++ FloatFormat.canonical.scientific d) := by
  obtain ⟨lead, rest, hdigits, hlead, hall, hvalue⟩ := exists_leading_digit hpos
  obtain ⟨hdigit, hrest⟩ := List.forall_mem_cons.mp hall
  have hlength : d.digitChars.length - 1 = rest.length := by
    rw [Decimal.digitChars, hdigits, List.length_cons, Nat.add_sub_cancel]
  have hfinish : finish? ⟨.power, negative, d.digits, rest.length, d.leadingExponent < 0,
      d.leadingExponent.natAbs⟩ =
        some ⟨negative, d.digits, rest.length, d.leadingExponent, false⟩ := by
    have hexponent := withSign_natAbs d.leadingExponent
    rw [withSign] at hexponent
    rw [finish?, hexponent]
  rw [hlength]
  refine ⟨_, ?_, hfinish⟩
  -- a single digit is followed by the power of ten, more digits by a point
  cases rest with
  | nil =>
      have hchars : FloatFormat.canonical.scientific d = [lead] ++ 'e' ::
          ((if d.leadingExponent < 0 then ['-'] else ['+']) ++
            Nat.toDigits 10 d.leadingExponent.natAbs) := by
        rw [FloatFormat.scientific, Decimal.digitChars, hdigits]
        rfl
      rw [hchars, ofChars?_digits negative hlead hall, hvalue,
        extendAll?_exponent negative (.inl rfl)]
      rfl
  | cons next rest =>
      have hchars : FloatFormat.canonical.scientific d = [lead] ++ '.' :: (next :: rest ++ 'e' ::
          ((if d.leadingExponent < 0 then ['-'] else ['+']) ++
            Nat.toDigits 10 d.leadingExponent.natAbs)) := by
        rw [FloatFormat.scientific, Decimal.digitChars, hdigits]
        rfl
      have hpoint (chars : List Char) : extendAll? ⟨.whole, negative,
          Nat.ofDigitChars 10 [lead] 0, 0, false, 0⟩ ('.' :: chars) =
            extendAll? ⟨.point, negative, Nat.ofDigitChars 10 [lead] 0, 0, false, 0⟩ chars := rfl
      rw [hchars, ofChars?_digits negative hlead (by simpa using hdigit), hpoint,
        extendAll?_append, extendAll?_point hrest _ _ _ _ _ (by simp), ← Nat.ofDigitChars_append,
        List.singleton_append, hvalue, Option.bind_some, Nat.zero_add,
        extendAll?_exponent negative (.inr rfl)]

end Decimal

/-! ## The numbers of a document -/

/-- A whole number of 64 bits is read back. -/
theorem exists_numeral_int [FloatReading] {n : Int} (hrange : inWholeRange n) :
    ∃ numeral : Numeral, numeral.SpelledBy (wholeChars n) ∧ numeral.value? = some (.int n) := by
  have hsign := withSign_natAbs n
  have hzero : ¬(decide (n < 0) = true ∧ n.natAbs = 0) := by
    rw [decide_eq_true_eq]
    omega
  refine ⟨_, spelledBy_wholeChars n, ?_⟩
  rw [Numeral.value?_whole (by rwa [hsign]) hzero, hsign]

section Float

variable {x : Binary64}

/-- A zero is written as a whole numeral without a sign. -/
theorem write_of_isZero (hzero : x.isZero) : FloatFormat.canonical.write x = ['0'] := by
  simp [FloatFormat.write, hzero, FloatFormat.canonical, FloatFormat.positional,
    Decimal.digitChars]

section Nonzero

variable (hzero : ¬x.isZero)

include hzero

theorem significand_pos : 0 < x.significand := by
  simp only [Binary64.isZero, decide_eq_true_eq] at hzero
  omega

theorem digits_shortest_pos : 0 < x.shortest.digits :=
  Binary64.digits_pos_of_readsBack (significand_pos hzero)
    (Binary64.readsBack_shortest (significand_pos hzero))

theorem ofDecimal?_shortest :
    Binary64.ofDecimal? x.negative x.shortest.digits x.shortest.exponent = some x :=
  Binary64.readsBack_iff.mp (Binary64.readsBack_shortest (significand_pos hzero))

/-- Digits that reach no further than the point are written without it. -/
theorem spelledBy_write_whole (hexponent : 0 ≤ x.shortest.exponent)
    (hleading : x.shortest.leadingExponent ≤ 20) :
    Numeral.SpelledBy
      ⟨x.negative, x.shortest.digits * 10 ^ x.shortest.exponent.toNat, 0, 0, true⟩
      (FloatFormat.canonical.write x) := by
  have hlength : 0 < x.shortest.digitChars.length := Nat.length_toDigits_pos
  have hdefinition : x.shortest.leadingExponent =
      (x.shortest.digitChars.length : Int) - 1 + x.shortest.exponent := rfl
  have hform : FloatFormat.canonical.leastPositional ≤ x.shortest.leadingExponent ∧
      x.shortest.leadingExponent ≤ FloatFormat.canonical.greatestPositional := by
    simp only [FloatFormat.canonical]
    omega
  have hspelled := spelledBy_positional_whole (digits_shortest_pos hzero) x.negative hexponent
  simpa only [FloatFormat.write, if_neg hzero, if_pos hform, signChars] using hspelled

/-- All others are written with a point or a power of ten. -/
theorem exists_spelledBy_write_fraction
    (hform : ¬(0 ≤ x.shortest.exponent ∧ x.shortest.leadingExponent ≤ 20)) :
    ∃ (places : Nat) (exponent : Int), exponent - places = x.shortest.exponent ∧
      Numeral.SpelledBy ⟨x.negative, x.shortest.digits, places, exponent, false⟩
        (FloatFormat.canonical.write x) := by
  have hpos := digits_shortest_pos hzero
  have hlength : 0 < x.shortest.digitChars.length := Nat.length_toDigits_pos
  have hdefinition : x.shortest.leadingExponent =
      (x.shortest.digitChars.length : Int) - 1 + x.shortest.exponent := rfl
  by_cases hpositional : FloatFormat.canonical.leastPositional ≤ x.shortest.leadingExponent ∧
      x.shortest.leadingExponent ≤ FloatFormat.canonical.greatestPositional
  · have hleading : x.shortest.leadingExponent ≤ 20 := hpositional.2
    refine ⟨(-x.shortest.exponent).toNat, 0, by omega, ?_⟩
    have hspelled := spelledBy_positional_point hpos x.negative (by omega)
    simpa only [FloatFormat.write, if_neg hzero, if_pos hpositional, signChars] using hspelled
  · refine ⟨x.shortest.digitChars.length - 1, x.shortest.leadingExponent, by omega, ?_⟩
    have hspelled := spelledBy_scientific hpos x.negative
    simpa only [FloatFormat.write, if_neg hzero, if_neg hpositional, signChars] using hspelled

/-- No float is nearer to the digits of a float than the float itself. -/
theorem nearest?_shortest_whole (hexponent : 0 ≤ x.shortest.exponent) :
    Numeral.nearest?
      ⟨x.negative, x.shortest.digits * 10 ^ x.shortest.exponent.toNat, 0, 0, true⟩ = some x := by
  have hread := Binary64.ofDecimal?_mul_pow x.negative (digits_shortest_pos hzero)
    x.shortest.exponent.toNat 0
  rw [Int.zero_add, Int.toNat_of_nonneg hexponent, ofDecimal?_shortest hzero] at hread
  exact hread

theorem nearest?_shortest_fraction {places : Nat} {exponent : Int}
    (hplaces : exponent - places = x.shortest.exponent) :
    Numeral.nearest? ⟨x.negative, x.shortest.digits, places, exponent, false⟩ = some x := by
  rw [Numeral.nearest?, hplaces, ofDecimal?_shortest hzero]

theorem exists_spelledBy_write : ∃ numeral : Numeral,
    numeral.SpelledBy (FloatFormat.canonical.write x) ∧ numeral.nearest? = some x := by
  by_cases hform : 0 ≤ x.shortest.exponent ∧ x.shortest.leadingExponent ≤ 20
  · exact ⟨_, spelledBy_write_whole hzero hform.1 hform.2, nearest?_shortest_whole hzero hform.1⟩
  · obtain ⟨places, exponent, hplaces, hspelled⟩ := exists_spelledBy_write_fraction hzero hform
    exact ⟨_, hspelled, nearest?_shortest_fraction hzero hplaces⟩

end Nonzero

/-- The numeral in the canonical text of a float is read as some float. -/
theorem read?_of_spelledBy [FloatReading] {numeral : Numeral}
    (hspelled : numeral.SpelledBy (FloatFormat.canonical.write x))
    (hnearest : numeral.nearest? = some x) : FloatReading.read? numeral = some x.reread := by
  have hchars := Numeral.spelled?_eq_some_iff.mpr hspelled
  obtain ⟨y, hy⟩ := Option.isSome_iff_exists.mp
    (FloatReading.isSome_read? hchars (Option.isSome_of_eq_some hnearest))
  rw [Binary64.reread, hchars, Option.bind_some, hy, Option.getD_some]

/-- A float is read as its respelling. -/
theorem exists_numeral_float [FloatReading] (x : Binary64) :
    ∃ numeral : Numeral, numeral.SpelledBy (FloatFormat.canonical.write x) ∧
      numeral.value? = some x.respelled := by
  by_cases hzero : x.isZero
  · rw [write_of_isZero hzero, Binary64.respelled, if_pos hzero]
    exact ⟨⟨false, 0, 0, 0, true⟩, ⟨_, rfl, rfl⟩, rfl⟩
  by_cases hform : 0 ≤ x.shortest.exponent ∧ x.shortest.leadingExponent ≤ 20
  · have hspelled := spelledBy_write_whole hzero hform.1 hform.2
    refine ⟨_, hspelled, ?_⟩
    by_cases hrange : inWholeRange x.shownWhole
    · have hdigits : x.shortest.digits * 10 ^ x.shortest.exponent.toNat ≠ 0 := by
        have hpos := digits_shortest_pos hzero
        positivity
      rw [Numeral.value?_whole hrange fun h => hdigits h.2, Binary64.respelled, if_neg hzero,
        if_pos ⟨hform.1, hform.2, hrange⟩]
      rfl
    · rw [Numeral.value?_outOfRange hrange,
        read?_of_spelledBy hspelled (nearest?_shortest_whole hzero hform.1), Binary64.respelled,
        if_neg hzero, if_neg fun h => hrange h.2.2]
      rfl
  · obtain ⟨places, exponent, hplaces, hspelled⟩ := exists_spelledBy_write_fraction hzero hform
    refine ⟨_, hspelled, ?_⟩
    rw [Numeral.value?_fraction,
      read?_of_spelledBy hspelled (nearest?_shortest_fraction hzero hplaces), Binary64.respelled,
      if_neg hzero, if_neg fun h => hform ⟨h.1, h.2.1⟩]
    rfl

end Float

end Json

namespace Binary64

/-- The nearest reading gives back every float but the zero that is written without its sign. -/
theorem reread_nearest {x : Binary64} (hzero : ¬x.isZero) : x.reread = x := by
  obtain ⟨numeral, hspelled, hnearest⟩ := Json.exists_spelledBy_write hzero
  have hread : numeral.nearest? = some x.reread := Json.read?_of_spelledBy hspelled hnearest
  exact Option.some.inj (hread.symm.trans hnearest)

/-- With it a float is read as a whole number or as itself. -/
theorem respelled_nearest (x : Binary64) :
    (∃ n, x.respelled = .int n) ∨ x.respelled = .float x := by
  rw [respelled]
  split
  case isTrue => exact .inl ⟨_, rfl⟩
  case isFalse hzero =>
    rw [reread_nearest hzero]
    split
    case isTrue => exact .inl ⟨_, rfl⟩
    case isFalse => exact .inr rfl

end Binary64

end HubSpoke
