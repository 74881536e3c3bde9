import HubSpoke.Proofs.Json.Reader

/-!
# What canonical texts do not keep

The canonical text of a value is read as the value, with two exceptions.  A float that the text
shows as a whole number is read as that number, and any other as what the reading makes of it; where
none of the `floats` of a value is changed, the value comes back as it was.  And a value that nests
deeper than documents may is not read at all: the reader judges the depth last, and what it reads
within some number of levels it reads within more.
-/

namespace HubSpoke.Json

/-! ## The floats of a value -/

mutual

/-- The floating-point numbers in a value. -/
def floats : Json → List Binary64
  | .float x => [x]
  | .arr items => floatsOfItems items
  | .obj members => floatsOfMembers members
  | .null | .bool _ | .int _ | .str _ => []

/-- `floats` of each item. -/
def floatsOfItems : List Json → List Binary64
  | [] => []
  | item :: rest => item.floats ++ floatsOfItems rest

/-- `floats` of each member's value. -/
def floatsOfMembers : List (String × Json) → List Binary64
  | [] => []
  | (_, value) :: rest => value.floats ++ floatsOfMembers rest

end

theorem mem_floats_arr {x : Binary64} {items : List Json} :
    x ∈ (arr items).floats ↔ ∃ item ∈ items, x ∈ item.floats := by
  rw [floats]
  induction items with
  | nil => simp [floatsOfItems]
  | cons item rest ih => simp [floatsOfItems, ih]

theorem mem_floats_obj {x : Binary64} {members : List (String × Json)} :
    x ∈ (obj members).floats ↔ ∃ member ∈ members, x ∈ member.2.floats := by
  rw [floats]
  induction members with
  | nil => simp [floatsOfMembers]
  | cons member rest ih => simp [floatsOfMembers, ih]

variable {change : Binary64 → Json}

/-- Replacing floats changes nothing when it changes none of those that occur. -/
theorem mapFloats_eq_self_of_floats {value : Json} (h : ∀ x ∈ value.floats, change x = .float x) :
    value.mapFloats change = value := by
  induction value with
  | float x => exact h x (List.mem_singleton.mpr rfl)
  | arr items ih =>
      have hitem : ∀ item ∈ items, item.mapFloats change = item := fun item hitem =>
        ih item hitem fun x hx => h x (mem_floats_arr.mpr ⟨item, hitem, hx⟩)
      rw [mapFloats_arr, List.map_eq_self_iff.mpr hitem]
  | obj members ih =>
      have hmember : ∀ member ∈ members, (member.1, member.2.mapFloats change) = member :=
        fun member hmember => Prod.ext rfl
          (ih member hmember fun x hx => h x (mem_floats_obj.mpr ⟨member, hmember, hx⟩))
      rw [mapFloats_obj, List.map_eq_self_iff.mpr hmember]
  | _ => rfl

/-! ## Depth -/

/-- Replacing floats changes no level. -/
theorem fits_of_mapFloats {value : Json} {levels more : Nat} (hvalue : value.fits .any more)
    (h : (value.mapFloats change).fits .any levels) : value.fits .any levels := by
  induction value generalizing levels more with
  | float x => rfl
  | arr items ih =>
      rw [mapFloats_arr, fits_arr, List.forall_mem_map] at h
      rw [fits_arr] at hvalue ⊢
      exact ⟨h.1, fun item hitem => ih item hitem (hvalue.2 item hitem) (h.2 item hitem)⟩
  | obj members ih =>
      rw [mapFloats_obj, fits_obj, List.forall_mem_map] at h
      rw [fits_obj] at hvalue ⊢
      exact ⟨h.1, hvalue.2.1, fun member hmember =>
        ih member hmember (hvalue.2.2 member hmember) (h.2.2 member hmember)⟩
  | _ => exact h

variable [FloatReading]

mutual

/-- What an outline spells within some levels, it spells within more. -/
theorem Outline.value?_mono {value : Json} :
    ∀ {levels more : Nat} (outline : Outline), levels ≤ more →
      outline.value? levels = some value → outline.value? more = some value
  | _, _, .null, _, h | _, _, .bool _, _, h | _, _, .number _, _, h | _, _, .text _, _, h => h
  | levels, more, .array items closed, hle, h => by
      rw [value?] at h ⊢
      split at h
      case isTrue => cases h
      case isFalse hopen =>
        obtain ⟨values, hvalues, rfl⟩ := Option.map_eq_some_iff.mp h
        rw [if_neg (mt (Or.imp_left fun hmore => by omega) hopen),
          items?_mono items (by omega) hvalues]
        rfl
  | levels, more, .object members closed, hle, h => by
      rw [value?] at h ⊢
      split at h
      case isTrue => cases h
      case isFalse hopen =>
        obtain ⟨values, hvalues, rfl⟩ := Option.map_eq_some_iff.mp h
        rw [if_neg (mt (Or.imp_left fun hmore => by omega) hopen),
          members?_mono members (by omega) hvalues]
        rfl
  | _, _, .broken, _, h => absurd h nofun

theorem Outline.items?_mono {levels more : Nat} {values : List Json} :
    ∀ items : List Outline, levels ≤ more → Outline.items? levels items = some values →
      Outline.items? more items = some values
  | [], _, h => h
  | item :: rest, hle, h => by
      simp only [items?, bind, Option.bind_eq_some_iff, pure, Option.some.injEq] at h ⊢
      obtain ⟨value, hvalue, values, hvalues, rfl⟩ := h
      exact ⟨value, value?_mono item hle hvalue, values, items?_mono rest hle hvalues, rfl⟩

theorem Outline.members?_mono {levels more : Nat} {values : List (String × Json)} :
    ∀ members : List (Option String × Outline), levels ≤ more →
      Outline.members? levels members = some values → Outline.members? more members = some values
  | [], _, h => h
  | (key, item) :: rest, hle, h => by
      simp only [members?, bind, Option.bind_eq_some_iff, pure, Option.some.injEq] at h ⊢
      obtain ⟨key, hkey, value, hvalue, members, hmembers, rfl⟩ := h
      exact ⟨key, hkey, value, value?_mono item hle hvalue, members,
        members?_mono rest hle hmembers, rfl⟩

end

/-- The canonical text of a value that nests too deep is not read. -/
theorem parse?_canonical_eq_none {value : Json} {levels : Nat} (hvalue : value.fits .any levels)
    (hdeep : ¬ value.fits .any maxDepth) : parse? value.canonical = none := by
  obtain ⟨outline, hspelled, hread⟩ := exists_outline_canonical hvalue
  rw [parse?, hread]
  cases hfound : outline.value? maxDepth with
  | none => rfl
  | some found =>
      have hmore : maxDepth ≤ levels := by
        by_contra hless
        exact hdeep (fits_mono hvalue (by omega))
      obtain rfl := Option.some.inj ((outline.value?_mono hmore hfound).symm.trans hspelled)
      exact absurd (fits_of_mapFloats hvalue (fits_of_value? outline hfound)) hdeep

end HubSpoke.Json
