import HubSpoke.Proofs.Json.Document
import HubSpoke.Proofs.KeyMap
import HubSpoke.Proofs.Outcome
import HubSpoke.Record.Codec

/-!
# What codecs keep

A document may spell one value in several ways, so decoding and encoding again need not give the
document back.  It gives a document that spells the same value, and that fits where the first one
did.

Both are stated of values that were decoded, because some values that can be built are not: an
optional value that holds null is rendered as null and read as an absent one.
-/

namespace HubSpoke.Codec

variable {α : Type}

/-- A codec that reads back what it renders of decoded values.  Where floats are replaced in
between, `follow` says what becomes of the value; `floor` is the number of levels that the codec may
need for a document that has fewer. -/
structure Lawful (codec : Codec α) (follow : (Binary64 → Json) → α → α) (floor : Nat) : Prop where
  redecode {change : Binary64 → Json} {document : Json} {value : α} (hchange : Json.Numeric change)
    (hdecode : codec.decode document = .ok value) :
    codec.decode ((codec.encode value).mapFloats change) = .ok (follow change value)
  fits {numbers : Json.Numbers} {levels : Nat} {document : Json} {value : α}
    (hfits : document.fits numbers levels) (hdecode : codec.decode document = .ok value) :
    (codec.encode value).fits numbers (max levels floor)
  notNull {document : Json} {value : α} (hdocument : document ≠ .null)
    (hdecode : codec.decode document = .ok value) : codec.encode value ≠ .null

/-- A lawful codec of values that hold no JSON values. -/
abbrev Plain (codec : Codec α) (floor : Nat) : Prop :=
  codec.Lawful (fun _ value => value) floor

namespace Lawful

variable {codec inner : Codec α} {follow : (Binary64 → Json) → α → α} {floor : Nat}

/-- What was decoded is decoded again from its rendering. -/
theorem decode_encode [HoldsFloats α] (h : codec.Lawful mapFloats floor) {document : Json}
    {value : α} (hdecode : codec.decode document = .ok value) :
    codec.decode (codec.encode value) = .ok value := by
  have hagain := h.redecode Json.numeric_float hdecode
  rwa [Json.mapFloats_float_self, mapFloats_float] at hagain

/-- A value decoded from a document without floats holds none. -/
theorem mapFloats_eq_self [HoldsFloats α] (h : codec.Lawful mapFloats floor) {levels : Nat}
    {document : Json} {value : α} (hfits : document.fits .whole levels)
    (hdecode : codec.decode document = .ok value) {change : Binary64 → Json}
    (hchange : Json.Numeric change) : mapFloats change value = value := by
  have hagain := h.redecode hchange hdecode
  rw [Json.mapFloats_eq_self (h.fits hfits hdecode), h.decode_encode hdecode] at hagain
  exact (Except.ok.inj hagain).symm

/-! ## Simple values -/

theorem json : Codec.json.Lawful Json.mapFloats 0 where
  redecode _ _ := rfl
  fits hfits hdecode := by
    obtain rfl := Except.ok.inj hdecode
    simpa [Codec.json] using hfits
  notNull hdocument hdecode := by
    obtain rfl := Except.ok.inj hdecode
    exact hdocument

theorem text : Codec.text.Plain 0 where
  redecode _ _ := rfl
  fits _ _ := rfl
  notNull _ _ := nofun

theorem flag : Codec.flag.Plain 0 where
  redecode _ _ := rfl
  fits _ _ := rfl
  notNull _ _ := nofun

/-- A number of a narrow type lies between the bounds it is read with. -/
theorem whole {least greatest : Int} {expected : Expected} {narrow : Int → α} {widen : α → Int}
    (hrange : ∀ value, least ≤ widen value ∧ widen value ≤ greatest)
    (hnarrow : ∀ value, narrow (widen value) = value)
    (hwhole : ∀ value, Json.inWholeRange (widen value)) :
    (Codec.whole least greatest expected narrow widen).Plain 0 where
  redecode {_ _ value} _ _ := by simp [Codec.whole, hrange value, hnarrow value]
  fits {_ _ _ value} _ _ := by simpa [Codec.whole, Json.fits] using hwhole value
  notNull _ _ := nofun

theorem int32 : Codec.int32.Plain 0 := by
  have hrange (value : Int32) : -2147483648 ≤ value.toInt ∧ value.toInt ≤ 2147483647 :=
    ⟨value.le_toInt, by have := value.toInt_lt; omega⟩
  refine whole hrange Int32.ofInt_toInt fun value => ?_
  have := hrange value
  simp only [Json.inWholeRange, decide_eq_true_eq]
  omega

theorem int64 : Codec.int64.Plain 0 := by
  have hrange (value : Int64) :
      -9223372036854775808 ≤ value.toInt ∧ value.toInt ≤ 9223372036854775807 :=
    ⟨value.le_toInt, by have := value.toInt_lt; omega⟩
  refine whole hrange Int64.ofInt_toInt fun value => ?_
  have := hrange value
  simp only [Json.inWholeRange, decide_eq_true_eq]
  omega

/-- A choice reads back every value whose name it knows. -/
theorem choice {known : List (String × α)} {name : α → String}
    (h : ∀ value, known.lookup (name value) = some value) : (Codec.choice known name).Plain 0 where
  redecode {_ _ value} _ _ := by simp [Codec.choice, choice.find, h value]
  fits _ _ := rfl
  notNull _ _ := nofun

/-! ## Collections -/

/-- An optional value reads back, because no decoded value is rendered as null. -/
theorem optional (h : inner.Lawful follow floor) :
    inner.optional.Lawful (fun change => Option.map (follow change)) floor where
  redecode {change document value} hchange hdecode := by
    cases value with
    | none => rfl
    | some value =>
        have hdocument : document ≠ .null := by
          rintro rfl
          simp [Codec.optional] at hdecode
        have hinner : inner.decode document = .ok value := by
          simpa [Codec.optional, hdocument, Except.map_eq_ok_iff] using hdecode
        have hnull := Json.mapFloats_ne_null hchange (h.notNull hdocument hinner)
        simp [Codec.optional, h.redecode hchange hinner, Except.map]
  fits {numbers levels document value} hfits hdecode := by
    cases value with
    | none => rfl
    | some value =>
        have hdocument : document ≠ .null := by
          rintro rfl
          simp [Codec.optional] at hdecode
        have hinner : inner.decode document = .ok value := by
          simpa [Codec.optional, hdocument, Except.map_eq_ok_iff] using hdecode
        exact h.fits hfits hinner
  notNull {document value} hdocument hdecode := by
    have hinner : ∃ a, inner.decode document = .ok a ∧ some a = value := by
      simpa [Codec.optional, hdocument, Except.map_eq_ok_iff] using hdecode
    obtain ⟨a, ha, rfl⟩ := hinner
    exact h.notNull hdocument ha

/-- A decoded list comes from the items of an array. -/
theorem items_of_list {document : Json} {values : List α}
    (hdecode : inner.list.decode document = .ok values) :
    ∃ items, document = .arr items ∧ items.mapM inner.decode = .ok values := by
  cases document with
  | arr items => exact ⟨items, rfl, hdecode⟩
  | _ => cases hdecode

theorem list (h : inner.Lawful follow floor) :
    inner.list.Lawful (fun change => List.map (follow change)) (floor + 1) where
  redecode {change document values} hchange hdecode := by
    obtain ⟨items, rfl, hitems⟩ := items_of_list hdecode
    have hagain : ∀ value ∈ values,
        inner.decode ((inner.encode value).mapFloats change) = .ok (follow change value) := by
      intro value hvalue
      obtain ⟨item, -, hitem⟩ := Except.exists_of_mem_mapM hitems hvalue
      exact h.redecode hchange hitem
    simpa [Codec.list, Function.comp_def] using Except.mapM_map_eq_ok hagain
  fits {numbers levels document values} hfits hdecode := by
    obtain ⟨items, rfl, hitems⟩ := items_of_list hdecode
    obtain ⟨hlevels, hfits⟩ := Json.fits_arr.mp hfits
    refine Json.fits_arr.mpr ⟨by omega, fun encoded hencoded => ?_⟩
    obtain ⟨value, hvalue, rfl⟩ := List.mem_map.mp hencoded
    obtain ⟨item, hmem, hitem⟩ := Except.exists_of_mem_mapM hitems hvalue
    exact Json.fits_mono (h.fits (hfits item hmem) hitem) (by omega)
  notNull _ _ := nofun

/-- Each entry of a decoded map comes from a member. -/
theorem member_of_map {document : Json} {values : KeyMap α}
    (hdecode : (Codec.map inner).decode document = .ok values) :
    ∃ members, document = .obj members ∧ ∀ entry ∈ values.entries,
      ∃ member ∈ members, inner.decode member.2 = .ok entry.2 := by
  cases document with
  | obj members =>
      obtain ⟨results, hresults, rfl⟩ := Except.map_eq_ok_iff.mp hdecode
      refine ⟨members, rfl, fun entry hentry => ?_⟩
      obtain ⟨member, hmember, hread⟩ :=
        Except.exists_of_mem_mapM hresults (KeyMap.mem_of_mem_sort hentry)
      obtain ⟨value, hvalue, rfl⟩ := Except.map_eq_ok_iff.mp hread
      exact ⟨member, hmember, hvalue⟩
  | _ => cases hdecode

/-- A map reads back from its entries, which are rendered in order. -/
theorem map (h : inner.Plain floor) : (Codec.map inner).Plain (floor + 1) where
  redecode {change document values} hchange hdecode := by
    obtain ⟨members, -, hentries⟩ := member_of_map hdecode
    have hagain : ∀ entry ∈ values.entries,
        (inner.decode ((inner.encode entry.2).mapFloats change)).map
          (fun value => (entry.1, value)) = .ok entry := by
      intro entry hentry
      obtain ⟨member, -, hmember⟩ := hentries entry hentry
      rw [h.redecode hchange hmember, Except.map]
    have hread : (values.entries.map fun entry =>
          (entry.1, (inner.encode entry.2).mapFloats change)).mapM
        (fun member => (inner.decode member.2).map fun value => (member.1, value)) =
          .ok (values.entries.map id) := Except.mapM_map_eq_ok hagain
    simp only [Codec.map, KeyMap.mapValues, Json.mapFloats_obj, List.map_map, Function.comp_def]
    rw [hread, List.map_id, Except.map, KeyMap.ofList_entries]
  fits {numbers levels document values} hfits hdecode := by
    obtain ⟨members, rfl, hentries⟩ := member_of_map hdecode
    obtain ⟨hlevels, -, hfits⟩ := Json.fits_obj.mp hfits
    refine Json.fits_obj.mpr ⟨by omega, (values.mapValues inner.encode).ascending, ?_⟩
    intro member hmember
    obtain ⟨entry, hentry, rfl⟩ := List.mem_map.mp hmember
    obtain ⟨member, hmem, hread⟩ := hentries entry hentry
    exact Json.fits_mono (h.fits (hfits member hmem) hread) (by omega)
  notNull _ _ := nofun

end Lawful

end HubSpoke.Codec
