import HubSpoke.Json.Outline
import HubSpoke.Json.SameData
import HubSpoke.Proofs.Outcome

/-!
# Documents, and the floats inside them

Not every value of type `Json` is a document: the keys of an object ascend, whole numbers have 64
bits, and containers nest to a bounded depth.  `Json.fits` says so, and says which numbers occur.

A text may spell a float as a whole number, and comparison drops the sign of a zero.  Both leave
everything but floats alone, so both are a case of `mapFloats`.  Types that hold values carry the
operation along; a value of theirs that is fixed when every float is replaced by a whole number
holds no float, and such a value is known from the data it holds (`eq_of_unsigned`).
-/

namespace HubSpoke

namespace Json

/-! ## Induction -/

/-- Induction on a value, its items and members taken together. -/
@[induction_eliminator]
theorem induct {motive : Json → Prop} (null : motive .null)
    (bool : ∀ value, motive (.bool value)) (int : ∀ value, motive (.int value))
    (float : ∀ value, motive (.float value)) (str : ∀ value, motive (.str value))
    (arr : ∀ items, (∀ item ∈ items, motive item) → motive (.arr items))
    (obj : ∀ members, (∀ member ∈ members, motive member.2) → motive (.obj members))
    (value : Json) : motive value :=
  @Json.rec motive (fun items => ∀ item ∈ items, motive item)
    (fun members => ∀ member ∈ members, motive member.2) (fun member => motive member.2)
    null bool int float str (fun items ih => arr items ih) (fun members ih => obj members ih)
    (fun _ h => nomatch h) (fun _ _ hhead htail => List.forall_mem_cons.mpr ⟨hhead, htail⟩)
    (fun _ h => nomatch h) (fun _ _ hhead htail => List.forall_mem_cons.mpr ⟨hhead, htail⟩)
    (fun _ _ h => h) value

/-! ## Replacing floats -/

mutual

/-- The value with every floating-point number replaced. -/
def mapFloats (change : Binary64 → Json) : Json → Json
  | .float x => change x
  | .arr items => .arr (mapFloatsItems change items)
  | .obj members => .obj (mapFloatsMembers change members)
  | .null => .null
  | .bool value => .bool value
  | .int value => .int value
  | .str text => .str text

/-- `mapFloats` on each item. -/
def mapFloatsItems (change : Binary64 → Json) : List Json → List Json
  | [] => []
  | item :: rest => item.mapFloats change :: mapFloatsItems change rest

/-- `mapFloats` on each member's value. -/
def mapFloatsMembers (change : Binary64 → Json) : List (String × Json) → List (String × Json)
  | [] => []
  | (key, value) :: rest => (key, value.mapFloats change) :: mapFloatsMembers change rest

end

/-- What takes the place of a float is a number. -/
def Numeric (change : Binary64 → Json) : Prop :=
  ∀ x, (∃ n, change x = .int n) ∨ ∃ y, change x = .float y

theorem numeric_float : Numeric .float := fun x => .inr ⟨x, rfl⟩

theorem numeric_zero : Numeric fun _ => .int 0 := fun _ => .inl ⟨0, rfl⟩

variable (change : Binary64 → Json)

theorem mapFloatsItems_eq (items : List Json) :
    mapFloatsItems change items = items.map (mapFloats change) := by
  induction items with
  | nil => rfl
  | cons item rest ih => simp [mapFloatsItems, ih]

theorem mapFloatsMembers_eq (members : List (String × Json)) :
    mapFloatsMembers change members =
      members.map fun member => (member.1, member.2.mapFloats change) := by
  induction members with
  | nil => rfl
  | cons member rest ih => simp [mapFloatsMembers, ih]

@[simp] theorem mapFloats_null : mapFloats change .null = .null := rfl

@[simp] theorem mapFloats_bool (value : Bool) : mapFloats change (.bool value) = .bool value := rfl

@[simp] theorem mapFloats_int (value : Int) : mapFloats change (.int value) = .int value := rfl

@[simp] theorem mapFloats_float (value : Binary64) :
    mapFloats change (.float value) = change value := rfl

@[simp] theorem mapFloats_str (value : String) : mapFloats change (.str value) = .str value := rfl

@[simp] theorem mapFloats_arr (items : List Json) :
    mapFloats change (.arr items) = .arr (items.map (mapFloats change)) := by
  rw [mapFloats, mapFloatsItems_eq]

@[simp] theorem mapFloats_obj (members : List (String × Json)) :
    mapFloats change (.obj members) =
      .obj (members.map fun member => (member.1, member.2.mapFloats change)) := by
  rw [mapFloats, mapFloatsMembers_eq]

variable {change} in
theorem mapFloats_ne_null (hchange : Numeric change) {value : Json} (h : value ≠ .null) :
    value.mapFloats change ≠ .null := by
  cases value with
  | null => exact absurd rfl h
  | float x => rcases hchange x with ⟨n, hn⟩ | ⟨y, hy⟩ <;> simp [*]
  | _ => simp

variable {change}

theorem mapFloats_float_self (value : Json) : value.mapFloats .float = value := by
  induction value with
  | arr items ih => rw [mapFloats_arr, List.map_eq_self_iff.mpr ih]
  | obj members ih =>
      have hmember : ∀ member ∈ members, (member.1, member.2.mapFloats .float) = member :=
        fun member h => Prod.ext rfl (ih member h)
      rw [mapFloats_obj, List.map_eq_self_iff.mpr hmember]
  | _ => rfl

theorem unsigned_eq_mapFloats (value : Json) :
    value.unsigned = value.mapFloats fun x => .float x.unsigned := by
  induction value with
  | arr items ih =>
      rw [mapFloats_arr, unsigned]
      congr 1
      induction items with
      | nil => rfl
      | cons item rest ihrest =>
          rw [unsignedItems, List.map_cons, ih item (by simp),
            ihrest fun other hother => ih other (by simp [hother])]
  | obj members ih =>
      rw [mapFloats_obj, unsigned]
      congr 1
      induction members with
      | nil => rfl
      | cons member rest ihrest =>
          rw [unsignedMembers, List.map_cons, ih member (by simp),
            ihrest fun other hother => ih other (by simp [hother])]
  | _ => rfl

/-! ## What fits into a document -/

/-- The numbers that occur in a value. -/
inductive Numbers where
  | whole
  | any
deriving DecidableEq

mutual

/-- A value as documents hold them: at most `levels` containers inside one another, the keys of
objects in ascending order, whole numbers of 64 bits, and no float where `numbers` is `whole`. -/
def fits (numbers : Numbers) (levels : Nat) : Json → Bool
  | .null | .bool _ | .str _ => true
  | .int value => inWholeRange value
  | .float _ => numbers = .any
  | .arr items => 0 < levels && itemsFit numbers (levels - 1) items
  | .obj members =>
      0 < levels && decide ((members.map Prod.fst).Pairwise (· < ·)) &&
        membersFit numbers (levels - 1) members

/-- `fits` of each item. -/
def itemsFit (numbers : Numbers) (levels : Nat) : List Json → Bool
  | [] => true
  | item :: rest => item.fits numbers levels && itemsFit numbers levels rest

/-- `fits` of each member's value. -/
def membersFit (numbers : Numbers) (levels : Nat) : List (String × Json) → Bool
  | [] => true
  | (_, value) :: rest => value.fits numbers levels && membersFit numbers levels rest

end

variable {numbers : Numbers} {levels : Nat}

theorem itemsFit_iff {items : List Json} :
    itemsFit numbers levels items ↔ ∀ item ∈ items, item.fits numbers levels := by
  induction items with
  | nil => simp [itemsFit]
  | cons item rest ih => simp [itemsFit, ih]

theorem membersFit_iff {members : List (String × Json)} :
    membersFit numbers levels members ↔ ∀ member ∈ members, member.2.fits numbers levels := by
  induction members with
  | nil => simp [membersFit]
  | cons member rest ih => simp [membersFit, ih]

theorem fits_arr {items : List Json} :
    (arr items).fits numbers levels ↔
      0 < levels ∧ ∀ item ∈ items, item.fits numbers (levels - 1) := by
  simp [fits, itemsFit_iff]

theorem fits_obj {members : List (String × Json)} :
    (obj members).fits numbers levels ↔
      0 < levels ∧ (members.map Prod.fst).Pairwise (· < ·) ∧
        ∀ member ∈ members, member.2.fits numbers (levels - 1) := by
  simp only [fits, Bool.and_eq_true, decide_eq_true_eq, membersFit_iff, and_assoc]

/-- More levels hold what fewer hold. -/
theorem fits_mono {value : Json} {more : Nat} (h : value.fits numbers levels)
    (hle : levels ≤ more) : value.fits numbers more := by
  induction value generalizing levels more with
  | arr items ih =>
      rw [fits_arr] at h ⊢
      exact ⟨by omega, fun item hitem => ih item hitem (h.2 item hitem) (by omega)⟩
  | obj members ih =>
      rw [fits_obj] at h ⊢
      exact ⟨by omega, h.2.1, fun member hmember =>
        ih member hmember (h.2.2 member hmember) (by omega)⟩
  | _ => exact h

/-- Without floats there is nothing to replace. -/
theorem mapFloats_eq_self {value : Json} (h : value.fits .whole levels) :
    value.mapFloats change = value := by
  induction value generalizing levels with
  | float x => simp [fits] at h
  | arr items ih =>
      have hitem : ∀ item ∈ items, item.mapFloats change = item :=
        fun item hmem => ih item hmem ((fits_arr.mp h).2 item hmem)
      rw [mapFloats_arr, List.map_eq_self_iff.mpr hitem]
  | obj members ih =>
      have hmember : ∀ member ∈ members, (member.1, member.2.mapFloats change) = member :=
        fun member hmem => Prod.ext rfl (ih member hmem ((fits_obj.mp h).2.2 member hmem))
      rw [mapFloats_obj, List.map_eq_self_iff.mpr hmember]
  | _ => rfl

/-- What a document without floats holds, every document may hold. -/
theorem fits_of_whole {value : Json} (h : value.fits .whole levels) :
    value.fits numbers levels := by
  induction value generalizing levels with
  | float x => simp [fits] at h
  | arr items ih =>
      rw [fits_arr] at h ⊢
      exact ⟨h.1, fun item hitem => ih item hitem (h.2 item hitem)⟩
  | obj members ih =>
      rw [fits_obj] at h ⊢
      exact ⟨h.1, h.2.1, fun member hmember => ih member hmember (h.2.2 member hmember)⟩
  | _ => exact h

end Json

/-! ## Types that hold values -/

/-- Types whose values hold JSON values, and the replacement of the floats in these. -/
class HoldsFloats (α : Type) where
  mapFloats : (Binary64 → Json) → α → α
  mapFloats_float : ∀ value, mapFloats .float value = value

export HoldsFloats (mapFloats mapFloats_float)

instance : HoldsFloats Json where
  mapFloats := Json.mapFloats
  mapFloats_float := Json.mapFloats_float_self

instance {α : Type} [HoldsFloats α] : HoldsFloats (List α) where
  mapFloats change := List.map (mapFloats change)
  mapFloats_float _ := List.map_eq_self_iff.mpr fun value _ => mapFloats_float value

instance {α : Type} [HoldsFloats α] : HoldsFloats (Option α) where
  mapFloats change := Option.map (mapFloats change)
  mapFloats_float
    | none => rfl
    | some value => congrArg some (mapFloats_float value)

instance {α β : Type} [HoldsFloats α] [HoldsFloats β] : HoldsFloats (α × β) where
  mapFloats change := Prod.map (mapFloats change) (mapFloats change)
  mapFloats_float _ := Prod.ext (mapFloats_float _) (mapFloats_float _)

instance {α β : Type} [Unsigned α] [Unsigned β] : Unsigned (α × β) :=
  ⟨Prod.map unsigned unsigned⟩

/-- Types of which a value without floats is the only one that holds its data. -/
class KnownByData (α : Type) [HoldsFloats α] [Unsigned α] : Prop where
  eq_of_unsigned {value other : α} (hwhole : mapFloats (fun _ => .int 0) value = value)
    (hsame : unsigned other = unsigned value) : other = value

export KnownByData (eq_of_unsigned)

/-- Lists of which each element is known from its data are known from theirs. -/
theorem map_injective_at {α β : Type} {f : α → β} {values others : List α}
    (h : ∀ value ∈ values, ∀ other, f other = f value → other = value)
    (hsame : others.map f = values.map f) : others = values := by
  induction values generalizing others with
  | nil => exact List.map_eq_nil_iff.mp hsame
  | cons value rest ih => cases others with
    | nil => exact absurd hsame (by simp)
    | cons other more =>
        obtain ⟨hother, hmore⟩ := List.cons.inj hsame
        rw [h value (by simp) other hother, ih (fun v hv => h v (by simp [hv])) hmore]

/-- A value without floats is the only one that is equal to it but for floats that are replaced by
floats. -/
theorem Json.eq_of_mapFloats {change : Binary64 → Binary64} {value other : Json}
    (hwhole : value.mapFloats (fun _ => .int 0) = value)
    (hsame : other.mapFloats (fun x => .float (change x)) =
      value.mapFloats fun x => .float (change x)) : other = value := by
  induction value generalizing other with
  | float x => exact absurd hwhole (by simp)
  | arr items ih =>
      cases other with
      | arr others =>
          simp only [mapFloats_arr, arr.injEq] at hwhole hsame
          refine congrArg arr (map_injective_at (fun item hitem other => ?_) hsame)
          exact ih item hitem (List.map_eq_self_iff.mp hwhole item hitem)
      | _ => simp at hsame
  | obj members ih =>
      cases other with
      | obj others =>
          simp only [mapFloats_obj, obj.injEq] at hwhole hsame
          refine congrArg obj (map_injective_at (fun member hmember other heq => ?_) hsame)
          have hfixed := List.map_eq_self_iff.mp hwhole member hmember
          obtain ⟨hkey, hvalue⟩ := Prod.mk.inj heq
          exact Prod.ext hkey (ih member hmember (Prod.mk.inj hfixed).2 hvalue)
      | _ => simp at hsame
  | _ => cases other <;> simp_all

instance : KnownByData Json where
  eq_of_unsigned {value other} hwhole hsame :=
    Json.eq_of_mapFloats hwhole <| by
      rw [← Json.unsigned_eq_mapFloats, ← Json.unsigned_eq_mapFloats]
      exact hsame

instance {α : Type} [HoldsFloats α] [Unsigned α] [KnownByData α] : KnownByData (Option α) where
  eq_of_unsigned {value other} hwhole hsame := by
    cases value with
    | none => cases other with
      | none => rfl
      | some other => exact absurd hsame (by simp [unsigned])
    | some value => cases other with
      | none => exact absurd hsame (by simp [unsigned])
      | some other =>
          exact congrArg some (eq_of_unsigned (Option.some.inj hwhole) (Option.some.inj hsame))

instance {α : Type} [HoldsFloats α] [Unsigned α] [KnownByData α] : KnownByData (List α) where
  eq_of_unsigned {values others} hwhole hsame := by
    refine map_injective_at (fun value hvalue other => eq_of_unsigned ?_) hsame
    exact List.map_inj_left.mp (hwhole.trans (List.map_id' values).symm) value hvalue

instance {α β : Type} [HoldsFloats α] [Unsigned α] [KnownByData α] [HoldsFloats β] [Unsigned β]
    [KnownByData β] : KnownByData (α × β) where
  eq_of_unsigned hwhole hsame := by
    obtain ⟨hfirst, hsecond⟩ := Prod.ext_iff.mp hwhole
    obtain ⟨hfirst', hsecond'⟩ := Prod.ext_iff.mp hsame
    exact Prod.ext (eq_of_unsigned hfirst hfirst') (eq_of_unsigned hsecond hsecond')

/-- A record is known by its data if the parts of it that hold JSON values are. -/
theorem KnownByData.ofParts {α β : Type} [HoldsFloats α] [Unsigned α] [HoldsFloats β] [Unsigned β]
    [KnownByData β] (parts : α → β) (put : α → β → α)
    (hput : ∀ value, put (unsigned value) (parts value) = value := by intro _; rfl)
    (hfloats : ∀ change value, parts (mapFloats change value) = mapFloats change (parts value) := by
      intro _ _; rfl)
    (hunsigned : ∀ value, parts (unsigned value) = unsigned (parts value) := by intro _; rfl) :
    KnownByData α where
  eq_of_unsigned {value other} hwhole hsame := by
    have hparts : parts other = parts value := by
      refine eq_of_unsigned ?_ ?_
      · rw [← hfloats, hwhole]
      · rw [← hunsigned, ← hunsigned, hsame]
    calc other = put (unsigned other) (parts other) := (hput other).symm
      _ = put (unsigned value) (parts value) := by rw [hsame, hparts]
      _ = value := hput value

end HubSpoke
