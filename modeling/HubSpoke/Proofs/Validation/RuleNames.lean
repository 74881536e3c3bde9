import HubSpoke.Proofs.Validation.Match
import HubSpoke.Validation.Policy
import Mathlib.Data.List.Nodup
import Mathlib.Data.String.Basic

/-!
# Names of rules

The names of the rules are looked at in one pass, which takes note of every name that is not blank.
So the names seen before a position are those of the earlier ones that are not blank
(`RuleNames.Seen`), and of a name that is not blank itself it makes no difference whether it is
looked for among the names seen or among all earlier ones.  What is told of each name then depends
on the list of names alone, and not on the pass.

The length of a name is counted in octets, although it is told of in characters.
-/

namespace HubSpoke

/-! ## One pass over the names -/

/-- The names seen are the earlier ones, but for blank ones. -/
def RuleNames.Seen (seen earlier : List String) : Prop :=
  ∀ name, name ∈ seen ↔ name ∈ earlier ∧ Text.isBlank name = false

namespace RuleNames.Seen

variable {seen earlier : List String} {name : String}

theorem nil : Seen [] [] := by
  simp [Seen]

theorem step (h : Seen seen earlier) (name : String) :
    Seen (ruleNamesSeen seen name) (earlier ++ [name]) := by
  intro other
  rw [ruleNamesSeen, List.mem_append, List.mem_singleton]
  split
  case isTrue hblank =>
    -- the blank name is earlier now, but is not one that is asked about
    rw [h other]
    constructor
    · rintro ⟨hmem, hgiven⟩
      exact ⟨.inl hmem, hgiven⟩
    · rintro ⟨hmem | rfl, hgiven⟩
      · exact ⟨hmem, hgiven⟩
      · simp [hblank] at hgiven
  case isFalse hgiven =>
    rw [List.mem_insert_iff, h other]
    constructor
    · rintro (rfl | ⟨hmem, hother⟩)
      · exact ⟨.inr rfl, by simpa using hgiven⟩
      · exact ⟨.inl hmem, hother⟩
    · rintro ⟨hmem | rfl, hother⟩
      · exact .inr ⟨hmem, hother⟩
      · exact .inl rfl

/-- Of a name the same is told, whether it is looked for among the names seen or among all. -/
theorem ruleNameFindings_eq (h : Seen seen earlier) (path : FieldPath) :
    ruleNameFindings path seen name = ruleNameFindings path earlier name := by
  rw [ruleNameFindings, ruleNameFindings]
  split
  case isTrue => rfl
  case isFalse hgiven =>
    have hcontains : seen.contains name = earlier.contains name := by
      have hmem := h name
      simp only [hgiven, and_true] at hmem
      simp only [List.contains_eq_mem, hmem]
    rw [hcontains]

/-- What the pass tells from a position on is told of each name by those before it. -/
theorem ruleNamesFindingsFrom_eq (rules : FieldPath) (names : List String)
    (h : Seen seen earlier) :
    ruleNamesFindingsFrom rules earlier.length seen names =
      (names.zipIdx earlier.length).flatMap fun (name, position) =>
        ruleNameFindings ((rules.index position).child "name")
          ((earlier ++ names).take position) name := by
  induction names generalizing seen earlier with
  | nil => rfl
  | cons name names ih =>
      have hearlier : (earlier ++ name :: names).take earlier.length = earlier := List.take_left
      have hrest := ih (h.step name)
      rw [List.length_append, List.length_singleton, List.append_assoc,
        List.singleton_append] at hrest
      simp only [ruleNamesFindingsFrom, hrest, List.zipIdx_cons, List.flatMap_cons, hearlier,
        h.ruleNameFindings_eq]

end RuleNames.Seen

/-- What is told of the names of rules is told of each by the names before it. -/
theorem ruleNamesFindings_eq (rules : FieldPath) (names : List String) :
    ruleNamesFindings rules names = names.zipIdx.flatMap fun (name, position) =>
      ruleNameFindings ((rules.index position).child "name") (names.take position) name :=
  RuleNames.Seen.nil.ruleNamesFindingsFrom_eq rules names

/-! ## Names without a finding -/

/-- A name is given and not too long. -/
structure RuleName.WellFormed (name : String) : Prop where
  given : Text.isBlank name = false
  short : name.utf8ByteSize ≤ Defect.maxRuleName

theorem ruleNameFindings_eq_nil_iff {path : FieldPath} {earlier : List String} {name : String} :
    ruleNameFindings path earlier name = [] ↔ RuleName.WellFormed name ∧ name ∉ earlier := by
  rw [ruleNameFindings]
  split
  case isTrue hblank =>
    refine iff_of_false (by simp) fun h => ?_
    simp [h.1.given] at hblank
  case isFalse hgiven =>
    simp only [List.append_eq_nil_iff, Finding.require_eq_nil_iff, decide_eq_true_eq,
      Bool.not_eq_true', List.contains_eq_mem, decide_eq_false_iff_not]
    exact ⟨fun h => ⟨⟨by simpa using hgiven, h.1⟩, h.2⟩, fun h => ⟨h.1.short, h.2⟩⟩

/-- No item stands among those before it just when the items are distinct. -/
theorem forall_not_mem_take_iff {α : Type} {items : List α} :
    (∀ item position, (item, position) ∈ items.zipIdx → item ∉ items.take position) ↔
      items.Nodup := by
  rw [List.Nodup, List.pairwise_iff_getElem]
  constructor
  · intro h earlier later hearlier hlater hlt heq
    refine h items[later] later (List.mk_mem_zipIdx_iff_getElem?.mpr (by simp [hlater])) ?_
    exact List.mem_take_iff_getElem.mpr ⟨earlier, by omega, heq⟩
  · intro h item position hitem hmem
    obtain ⟨earlier, hearlier, heq⟩ := List.mem_take_iff_getElem.mp hmem
    obtain ⟨hposition, hhere⟩ :=
      List.getElem?_eq_some_iff.mp (List.mk_mem_zipIdx_iff_getElem?.mp hitem)
    exact h earlier position (by omega) hposition (by omega) (heq.trans hhere.symm)

theorem ruleNamesFindings_eq_nil_iff {path : FieldPath} {names : List String} :
    ruleNamesFindings path names = [] ↔
      (∀ name ∈ names, RuleName.WellFormed name) ∧ names.Nodup := by
  rw [← forall_not_mem_take_iff, ← forall_mem_zipIdx_iff]
  simp only [ruleNamesFindings_eq, List.flatMap_eq_nil_iff, Prod.forall,
    ruleNameFindings_eq_nil_iff, imp_and, forall_and]

/-! ## What is told of each name -/

namespace RuleName

/-- What is to be told of a name that stands at a position of a list, by what counts as too long: a
blank name is missing, and any other may be too long, and repeated if an earlier one is equal. -/
def told (isLong : String → Bool) (rules : FieldPath) (names : List String) (position : Nat)
    (name : String) : List Finding :=
  let path := (rules.index position).child "name"
  if Text.isBlank name then [⟨path, .ruleNameMissing⟩]
  else (if isLong name then [⟨path, .ruleNameTooLong⟩] else []) ++
    if ∃ earlier < position, names[earlier]? = some name then [⟨path, .ruleNameRepeated name⟩]
    else []

/-- What is to be told of the names of a list, in their order. -/
def toldAll (isLong : String → Bool) (rules : FieldPath) (names : List String) : List Finding :=
  names.zipIdx.flatMap fun (name, position) => told isLong rules names position name

/-- The name has more than 63 octets. -/
def hasManyOctets (name : String) : Bool :=
  63 < name.utf8ByteSize

/-- The name has more than 63 characters. -/
def hasManyChars (name : String) : Bool :=
  63 < name.length

/-- No text has more characters than octets. -/
theorem length_le_utf8ByteSize (name : String) : name.length ≤ name.utf8ByteSize := by
  have hchars (chars : List Char) : chars.length ≤ String.utf8Len chars := by
    induction chars with
    | nil => exact Nat.le_refl _
    | cons char chars ih =>
        have hpos := char.utf8Size_pos
        rw [List.length_cons, String.utf8Len_cons]
        omega
  rw [← String.length_toList, ← String.utf8Len_toList]
  exact hchars name.toList

variable {isLong other : String → Bool} {rules : FieldPath} {names : List String}

theorem told_hasManyOctets (position : Nat) (name : String) :
    told hasManyOctets rules names position name =
      ruleNameFindings ((rules.index position).child "name") (names.take position) name := by
  have hearlier : (∃ earlier < position, names[earlier]? = some name) ↔
      name ∈ names.take position := by
    rw [List.mem_take_iff_getElem]
    constructor
    · rintro ⟨earlier, hlt, heq⟩
      obtain ⟨hearlier, hname⟩ := List.getElem?_eq_some_iff.mp heq
      exact ⟨earlier, by omega, hname⟩
    · rintro ⟨earlier, hlt, hname⟩
      exact ⟨earlier, by omega, List.getElem?_eq_some_iff.mpr ⟨by omega, hname⟩⟩
  have hlong : hasManyOctets name = !decide (name.utf8ByteSize ≤ Defect.maxRuleName) := by
    grind [hasManyOctets, Defect.maxRuleName]
  rw [told, ruleNameFindings]
  split
  case isTrue => rfl
  case isFalse =>
    cases hfits : decide (name.utf8ByteSize ≤ Defect.maxRuleName) <;>
      simp [hearlier, hlong, hfits, Finding.require]

/-- A name at a position is told to be too long just when it is not blank and counts so. -/
theorem tooLong_mem_toldAll_iff {position : Nat} :
    ⟨(rules.index position).child "name", .ruleNameTooLong⟩ ∈ toldAll isLong rules names ↔
      ∃ name, names[position]? = some name ∧ Text.isBlank name = false ∧ isLong name := by
  have htold (name : String) (other : Nat) :
      ⟨(rules.index position).child "name", .ruleNameTooLong⟩ ∈
          told isLong rules names other name ↔
        position = other ∧ Text.isBlank name = false ∧ isLong name := by
    cases hblank : Text.isBlank name <;>
      simp [told, hblank, FieldPath.child, FieldPath.index, List.mem_ite_nil_right, and_comm]
  simp only [toldAll, List.mem_flatMap, Prod.exists, htold, List.mk_mem_zipIdx_iff_getElem?]
  constructor
  · rintro ⟨name, other, hname, rfl, hlong⟩
    exact ⟨name, hname, hlong⟩
  · rintro ⟨name, hname, hlong⟩
    exact ⟨name, position, hname, rfl, hlong⟩

/-- Two ways to count tell the same of a list just when they agree on its names that are given. -/
theorem toldAll_eq_iff : toldAll isLong rules names = toldAll other rules names ↔
    ∀ name ∈ names, Text.isBlank name = false → isLong name = other name := by
  constructor
  · intro h name hname hgiven
    obtain ⟨position, hat⟩ := List.mem_iff_getElem?.mp hname
    -- the lists agree on whether the name at this position is told to be too long
    have htold (count : String → Bool) :
        ⟨(rules.index position).child "name", .ruleNameTooLong⟩ ∈ toldAll count rules names ↔
          count name := by
      simp [tooLong_mem_toldAll_iff, hat, hgiven]
    rw [Bool.eq_iff_iff, ← htold isLong, ← htold other, h]
  · intro h
    refine List.flatMap_congr fun entry hentry => ?_
    obtain ⟨name, position⟩ := entry
    have hname : name ∈ names := List.fst_mem_of_mem_zipIdx hentry
    cases hblank : Text.isBlank name <;> simp [told, hblank, h name hname]

end RuleName

/-! ## The findings on names -/

/-- What is wrong with the names of rules is told exactly, but for how the length of a name is
counted: a name with few characters and many octets is told to be too long. -/
theorem rule_name_findings_exact (rules : FieldPath) (names : List String) :
    ruleNamesFindings rules names = RuleName.toldAll RuleName.hasManyOctets rules names ∧
      (ruleNamesFindings rules names = RuleName.toldAll RuleName.hasManyChars rules names ↔
        ∀ name ∈ names, Text.isBlank name = false → name.length ≤ 63 →
          name.utf8ByteSize ≤ 63) := by
  have hoctets : ruleNamesFindings rules names =
      RuleName.toldAll RuleName.hasManyOctets rules names := by
    simp only [ruleNamesFindings_eq, RuleName.toldAll, RuleName.told_hasManyOctets]
  refine ⟨hoctets, ?_⟩
  rw [hoctets, RuleName.toldAll_eq_iff]
  refine forall₂_congr fun name _ => forall_congr' fun _ => ?_
  have hle := RuleName.length_le_utf8ByteSize name
  grind [RuleName.hasManyOctets, RuleName.hasManyChars]

/-- A name of 32 characters, each of two octets, is told to be too long. -/
theorem rule_name_of_two_octet_characters :
    let name := String.ofList (List.replicate 32 'é')
    ruleNamesFindings FieldPath.rules [name] =
        [⟨(FieldPath.rules.index 0).child "name", .ruleNameTooLong⟩] ∧
      RuleName.toldAll RuleName.hasManyChars FieldPath.rules [name] = [] := by
  decide +kernel

end HubSpoke
