import HubSpoke.Proofs.Record.Fields

/-!
# Values that some document spells

Whether a value can be read at all is asked of values that no document was read to, such as those a
conversion made.  A record is read from some object when each of its fields is built from a member
of its own: from the member another record had under the same name, from one made for the value, or
from none where the value is the default.

`ReadsIn` asks the same of documents of some number of levels, such as can be stashed.
-/

namespace HubSpoke

/-- Some document is read as the value. -/
def Codec.Reads {α : Type} (codec : Codec α) (value : α) : Prop :=
  ∃ document, codec.decode document = .ok value

/-- A value that null does not spell is not taken for an absent one. -/
theorem Codec.decode_optional {α : Type} {codec : Codec α} {document : Json} {value : α}
    (hnull : ∀ {value}, codec.decode .null ≠ .ok value) (h : codec.decode document = .ok value) :
    codec.optional.decode document = .ok (some value) := by
  cases document with
  | null => exact absurd h hnull
  | _ => exact Except.map_eq_ok_iff.mpr ⟨value, h, rfl⟩

namespace Fields

variable {σ τ α β : Type}

/-- A field looks under its own name only, whatever record it is a field of. -/
theorem build_congr {name : String} {decode : Json → Except Mismatch α} {absent : Option α}
    {render : α → Option Json} {get : σ → α} {other : τ → α} {value : α}
    {given again : List (String × Json)} (hlookup : again.lookup name = given.lookup name)
    (h : (field name decode absent render other).build given = .ok value) :
    (field name decode absent render get).build again = .ok value := by
  simp only [field] at h ⊢
  rw [hlookup]
  exact h

theorem build_of_decode {name : String} {decode : Json → Except Mismatch α} {absent : Option α}
    {render : α → Option Json} {get : σ → α} {value : α} {document : Json}
    {given : List (String × Json)} (hlookup : given.lookup name = some document)
    (h : decode document = .ok value) :
    (field name decode absent render get).build given = .ok value := by
  simp [field, hlookup, h, Except.mapError]

/-- Under each of the keys there is something allowed to say, or nothing, from which the fields
build the value, whatever else is said. -/
def Spelled (fields : Fields σ α) (value : α) (keys : List String)
    (allowed : Json → Prop := fun _ => True) : Prop :=
  keys.Nodup → ∃ spelling : String → Option Json,
    (∀ key ∈ keys, ∀ item, spelling key = some item → allowed item) ∧
    ∀ {given : List (String × Json)}, (∀ key ∈ keys, given.lookup key = spelling key) →
      fields.build given = .ok value

namespace Spelled

variable {codec : Codec α} {name : String} {keys more : List String} {allowed : Json → Prop}

theorem map {fields : Fields σ α} {value : α} {f : α → β} (h : Spelled fields value keys allowed) :
    Spelled (f <$> fields) (f value) keys allowed := by
  intro hkeys
  obtain ⟨spelling, hallowed, hspelling⟩ := h hkeys
  refine ⟨spelling, hallowed, fun hgiven => ?_⟩
  have hbuild : (f <$> fields).Builds _ (· = f value) :=
    builds_map.mpr ⟨value, hspelling hgiven, rfl⟩
  obtain ⟨_, hbuild, rfl⟩ := hbuild
  exact hbuild

/-- Two groups without a common name, each with its own members. -/
theorem seq {first : Fields σ (α → β)} {second : Fields σ α} {f : α → β} {value : α}
    (hfirst : Spelled first f keys allowed) (hsecond : Spelled second value more allowed) :
    Spelled (first <*> second) (f value) (keys ++ more) allowed := by
  intro hkeys
  obtain ⟨hnodup, hmore, hdisjoint⟩ := List.nodup_append.mp hkeys
  obtain ⟨one, honeAllowed, hone⟩ := hfirst hnodup
  obtain ⟨two, htwoAllowed, htwo⟩ := hsecond hmore
  -- a key belongs to one of the groups, which says what stands under it
  refine ⟨fun key => if key ∈ keys then one key else two key, fun key hkey item hitem => ?_,
    fun {given} hgiven => ?_⟩
  · dsimp only at hitem
    split at hitem
    case isTrue hmem => exact honeAllowed key hmem item hitem
    case isFalse hother =>
      exact htwoAllowed key ((List.mem_append.mp hkey).resolve_left hother) item hitem
  · dsimp only at hgiven
    have hbuild : (first <*> second).Builds given (· = f value) := by
      refine builds_seq.mpr ⟨f, hone fun key hkey => ?_, value, htwo fun key hkey => ?_, rfl⟩
      · rw [hgiven key (List.mem_append_left _ hkey), if_pos hkey]
      · have hother : key ∉ keys := fun hmem => hdisjoint key hmem key hkey rfl
        rw [hgiven key (List.mem_append_right _ hkey), if_neg hother]
    obtain ⟨_, hbuild, rfl⟩ := hbuild
    exact hbuild

theorem spread {part : Fields τ α} {get : σ → τ} {value : α} (h : Spelled part value keys allowed) :
    Spelled (Fields.spread part get) value keys allowed := by
  intro hkeys
  obtain ⟨spelling, hallowed, hspelling⟩ := h hkeys
  exact ⟨spelling, hallowed, fun hgiven => Except.mapError_eq_ok_iff.mpr (hspelling hgiven)⟩

/-- Fields that echo build their value of what they rendered. -/
theorem of_echoes {fields : Fields σ α} {given : List (String × Json)} {floor : Nat} {record : σ}
    {value : α} (h : Echoes fields .float given floor record value keys) :
    Spelled fields value keys :=
  fun hkeys => ⟨fun key => ((fields.members record).lookup key).map (Json.mapFloats .float),
    fun _ _ _ _ => trivial, fun hgiven => h.rebuild Json.numeric_float hkeys hgiven⟩

/-! ## Single fields -/

section Field

variable {decode : Json → Except Mismatch α} {absent : Option α} {render : α → Option Json}
  {get : σ → α} {value : α}

/-- A field is spelled by what stands under its name. -/
theorem of_lookup (found : Option Json) (hallowed : ∀ item, found = some item → allowed item)
    (h : ∀ {given : List (String × Json)}, given.lookup name = found →
      (field name decode absent render get).build given = .ok value) :
    Spelled (field name decode absent render get) value [name] allowed :=
  fun _ => ⟨fun _ => found, fun _ _ => hallowed, fun hgiven => h (hgiven name (by simp))⟩

/-- A field is built again of what it was built of, whatever record it is a field of. -/
theorem of_build {other : τ → α} {given : List (String × Json)}
    (h : (field name decode absent render other).build given = .ok value) :
    Spelled (field name decode absent render get) value [name] :=
  of_lookup (given.lookup name) (fun _ _ => trivial) fun hlookup => build_congr hlookup h

theorem of_decode {document : Json} (h : decode document = .ok value) :
    Spelled (field name decode absent render get) value [name] :=
  of_lookup (some document) (fun _ _ => trivial) fun hlookup => build_of_decode hlookup h

theorem of_reads (h : codec.Reads value) :
    Spelled (field name codec.decode absent render get) value [name] :=
  let ⟨_, hdocument⟩ := h
  of_decode hdocument

/-- The default is spelled by saying nothing. -/
theorem of_absent : Spelled (field name decode (some value) render get) value [name] allowed :=
  of_lookup none nofun fun hlookup => by simp [field, hlookup]

end Field

theorem hidden [DecidableEq α] {get : σ → α} {absent value : α} (h : codec.Reads value) :
    Spelled (Fields.hidden name codec absent get) value [name] :=
  of_reads h

theorem text {get : σ → String} (value : String) : Spelled (Fields.text name get) value [name] :=
  hidden ⟨.str value, rfl⟩

theorem flag {get : σ → Bool} (value : Bool) : Spelled (Fields.flag name get) value [name] :=
  hidden ⟨.bool value, rfl⟩

theorem list {get : σ → List α} {values : List α} (h : ∀ value ∈ values, codec.Reads value) :
    Spelled (Fields.list name codec get) values [name] := by
  obtain ⟨items, hitems⟩ := List.exists_forall₂ h
  have hdecode : codec.list.decode (.arr items) = .ok values :=
    Except.mapM_eq_ok_iff.mpr hitems.flip
  exact of_decode hdecode

theorem textList {get : σ → List String} (values : List String) :
    Spelled (Fields.list name .text get) values [name] :=
  list fun value _ => ⟨.str value, rfl⟩

theorem optional {get : σ → Option α} {item : Option α}
    (hnull : ∀ {value}, codec.decode .null ≠ .ok value)
    (h : ∀ value, item = some value → codec.Reads value) :
    Spelled (Fields.optional name codec get) item [name] := by
  cases item with
  | none => exact of_absent
  | some value =>
      obtain ⟨document, hdocument⟩ := h value rfl
      exact of_decode (Codec.decode_optional hnull hdocument)

theorem textMap {get : σ → KeyMap String} (values : KeyMap String) :
    Spelled (Fields.textMap name get) values [name] := by
  have hmembers : (values.entries.map fun entry => (entry.1, Json.str entry.2)).mapM
      (fun member => (Codec.text.decode member.2).map fun value => (member.1, value)) =
        .ok (values.entries.map id) := Except.mapM_map_eq_ok fun entry _ => rfl
  have hdecode : (Codec.map .text).decode
      (.obj (values.entries.map fun entry => (entry.1, .str entry.2))) = .ok values := by
    simp only [Codec.map]
    rw [hmembers, List.map_id, Except.map, KeyMap.ofList_entries]
  exact of_decode hdecode

end Spelled

end Fields

/-! ## Records -/

variable {σ : Type} {fields : Fields σ σ} {typeName : String} {keys : List String} {value : σ}

/-- The members that say under each key what there is to say. -/
def membersUnder (keys : List String) (spelling : String → Option Json) : List (String × Json) :=
  keys.filterMap fun key => (spelling key).map fun item => (key, item)

theorem lookup_membersUnder {spelling : String → Option Json} {key : String} (hkey : key ∈ keys) :
    (membersUnder keys spelling).lookup key = spelling key := by
  have hlookup : (membersUnder keys spelling).lookup key =
      if key ∈ keys then spelling key else none := by
    clear hkey
    induction keys with
    | nil => rfl
    | cons first rest ih =>
        rw [membersUnder] at ih ⊢
        by_cases hfirst : key = first
        · subst hfirst
          cases hspelling : spelling key <;> simp [hspelling, ih]
        · cases hspelling : spelling first <;>
            simp [hspelling, ih, hfirst, KeyMap.lookup_entry]
  rw [hlookup, if_pos hkey]

theorem mem_membersUnder {spelling : String → Option Json} {member : String × Json} :
    member ∈ membersUnder keys spelling ↔
      member.1 ∈ keys ∧ spelling member.1 = some member.2 := by
  obtain ⟨key, item⟩ := member
  simp [membersUnder]

theorem nodup_membersUnder {spelling : String → Option Json} (hkeys : keys.Nodup) :
    ((membersUnder keys spelling).map Prod.fst).Nodup := by
  have hnames : (membersUnder keys spelling).map Prod.fst =
      keys.filter fun key => (spelling key).isSome := by
    rw [membersUnder, List.map_filterMap, ← List.filterMap_eq_filter]
    refine List.filterMap_congr fun key _ => ?_
    cases hspelling : spelling key <;> simp [Option.guard, hspelling]
  rw [hnames]
  exact hkeys.filter _

/-- Null spells no record. -/
theorem Codec.record_null_ne {value : σ} :
    (Codec.record typeName fields).decode .null ≠ .ok value := nofun

/-- A record is read from the members that its fields are spelled by. -/
theorem Fields.Spelled.reads (h : fields.Spelled value keys) (hkeys : keys.Nodup) :
    (Codec.record typeName fields).Reads value := by
  obtain ⟨spelling, -, hspelling⟩ := h hkeys
  have hbuild : fields.build (membersUnder keys spelling) = .ok value :=
    hspelling fun key hkey => lookup_membersUnder hkey
  exact ⟨.obj (membersUnder keys spelling), Except.mapError_eq_ok_iff.mpr hbuild⟩

/-! ## Within a number of levels -/

/-- Some document with these numbers and levels is read as the value. -/
def Codec.ReadsIn {α : Type} (codec : Codec α) (numbers : Json.Numbers) (levels : Nat)
    (value : α) : Prop :=
  ∃ document, document.fits numbers levels ∧ codec.decode document = .ok value

variable {numbers : Json.Numbers} {levels : Nat}

theorem Codec.ReadsIn.reads {α : Type} {codec : Codec α} {value : α}
    (h : codec.ReadsIn numbers levels value) : codec.Reads value := by
  obtain ⟨document, -, hdecode⟩ := h
  exact ⟨document, hdecode⟩

/-- A document without floats is one that may hold some. -/
theorem Codec.ReadsIn.of_whole {α : Type} {codec : Codec α} {value : α}
    (h : codec.ReadsIn .whole levels value) : codec.ReadsIn numbers levels value :=
  let ⟨document, hfits, hdecode⟩ := h
  ⟨document, Json.fits_of_whole hfits, hdecode⟩

/-- The members that a record is read from stand one level below it. -/
theorem Codec.ReadsIn.builds (h : (Codec.record typeName fields).ReadsIn numbers levels value) :
    ∃ below given, levels = below + 1 ∧ (∀ member ∈ given, member.2.fits numbers below) ∧
      fields.Builds given (· = value) := by
  obtain ⟨document, hfits, hdecode⟩ := h
  obtain ⟨given, hbuild, hgiven⟩ := Codec.Lawful.builds_of_record hdecode
  obtain ⟨hlevels, hmembers⟩ := hgiven hfits
  exact ⟨levels - 1, given, by omega, hmembers, hbuild⟩

namespace Fields

variable {σ τ α β : Type} {codec : Codec α} {name : String} {given : List (String × Json)}

theorem readsIn_of_optional {get : σ → Option α} {result : Option α} {value : α}
    (hgiven : ∀ member ∈ given, member.2.fits numbers levels)
    (h : (optional name codec get).build given = .ok result) (hvalue : result = some value) :
    codec.ReadsIn numbers levels value := by
  obtain ⟨document, hmember, hdecode⟩ := member_of_optional (hvalue ▸ h)
  exact ⟨document, hgiven _ hmember, hdecode⟩

theorem readsIn_of_list {get : σ → List α} {values : List α} {value : α}
    (hgiven : ∀ member ∈ given, member.2.fits numbers levels)
    (h : (list name codec get).build given = .ok values) (hvalue : value ∈ values) :
    codec.ReadsIn numbers (levels - 1) value := by
  obtain ⟨items, hmember, item, hitem, hdecode⟩ := member_of_list h hvalue
  exact ⟨item, (Json.fits_arr.mp (hgiven _ hmember)).2 item hitem, hdecode⟩

/-- The value is spelled by members with these numbers and levels. -/
def SpelledIn (fields : Fields σ α) (numbers : Json.Numbers) (levels : Nat) (value : α)
    (keys : List String) : Prop :=
  Spelled fields value keys fun item => item.fits numbers levels

namespace SpelledIn

theorem map {fields : Fields σ α} {value : α} {f : α → β}
    (h : SpelledIn fields numbers levels value keys) :
    SpelledIn (f <$> fields) numbers levels (f value) keys :=
  Spelled.map h

theorem seq {first : Fields σ (α → β)} {second : Fields σ α} {f : α → β} {value : α}
    {more : List String} (hfirst : SpelledIn first numbers levels f keys)
    (hsecond : SpelledIn second numbers levels value more) :
    SpelledIn (first <*> second) numbers levels (f value) (keys ++ more) :=
  Spelled.seq hfirst hsecond

theorem spread {part : Fields τ α} {get : σ → τ} {value : α}
    (h : SpelledIn part numbers levels value keys) :
    SpelledIn (Fields.spread part get) numbers levels value keys :=
  Spelled.spread h

/-- One of two values, each of which is spelled. -/
theorem ite {fields : Fields σ α} {chosen : Prop} [Decidable chosen] {value other : α}
    (hvalue : SpelledIn fields numbers levels value keys)
    (hother : SpelledIn fields numbers levels other keys) :
    SpelledIn fields numbers levels (if chosen then value else other) keys := by
  split
  · exact hvalue
  · exact hother

section Field

variable {decode : Json → Except Mismatch α} {absent : Option α} {render : α → Option Json}
  {get : σ → α} {value : α}

theorem of_build {other : τ → α} (hgiven : ∀ member ∈ given, member.2.fits numbers levels)
    (h : (field name decode absent render other).build given = .ok value) :
    SpelledIn (field name decode absent render get) numbers levels value [name] := by
  refine Spelled.of_lookup (given.lookup name) (fun item hitem => ?_) fun hlookup => ?_
  · exact hgiven _ (KeyMap.mem_of_lookup hitem)
  · exact build_congr hlookup h

theorem of_decode {document : Json} (hfits : document.fits numbers levels)
    (h : decode document = .ok value) :
    SpelledIn (field name decode absent render get) numbers levels value [name] := by
  refine Spelled.of_lookup (some document) (fun item hitem => ?_) fun hlookup => ?_
  · rwa [← Option.some.inj hitem]
  · exact build_of_decode hlookup h

theorem of_readsIn (h : codec.ReadsIn numbers levels value) :
    SpelledIn (field name codec.decode absent render get) numbers levels value [name] :=
  let ⟨_, hfits, hdecode⟩ := h
  of_decode hfits hdecode

theorem of_absent :
    SpelledIn (field name decode (some value) render get) numbers levels value [name] :=
  Spelled.of_absent

end Field

theorem hidden [DecidableEq α] {get : σ → α} {absent value : α}
    (h : codec.ReadsIn numbers levels value) :
    SpelledIn (Fields.hidden name codec absent get) numbers levels value [name] :=
  of_readsIn h

theorem text {get : σ → String} (value : String) :
    SpelledIn (Fields.text name get) numbers levels value [name] :=
  hidden ⟨.str value, rfl, rfl⟩

theorem flag {get : σ → Bool} (value : Bool) :
    SpelledIn (Fields.flag name get) numbers levels value [name] :=
  hidden ⟨.bool value, rfl, rfl⟩

theorem list {get : σ → List α} {values : List α} (hlevels : 0 < levels)
    (h : ∀ value ∈ values, codec.ReadsIn numbers (levels - 1) value) :
    SpelledIn (Fields.list name codec get) numbers levels values [name] := by
  obtain ⟨items, hitems⟩ := List.exists_forall₂ h
  have hfits : (Json.arr items).fits numbers levels := by
    refine Json.fits_arr.mpr ⟨hlevels, fun item hitem => ?_⟩
    obtain ⟨_, -, hfits, -⟩ := List.exists_of_forall₂_right hitems hitem
    exact hfits
  have hdecode : codec.list.decode (.arr items) = .ok values :=
    Except.mapM_eq_ok_iff.mpr (hitems.imp fun _ _ hitem => hitem.2).flip
  exact of_decode hfits hdecode

theorem optional {get : σ → Option α} {item : Option α}
    (hnull : ∀ {value}, codec.decode .null ≠ .ok value)
    (h : ∀ value, item = some value → codec.ReadsIn numbers levels value) :
    SpelledIn (Fields.optional name codec get) numbers levels item [name] := by
  cases item with
  | none => exact of_absent
  | some value =>
      obtain ⟨document, hfits, hdocument⟩ := h value rfl
      exact of_decode hfits (Codec.decode_optional hnull hdocument)

/-! ### Values made of those another record was built of -/

variable {β : Type} {target : Codec β} {f : α → β}

theorem list_map {get : σ → List β} {other : τ → List α} {values : List α}
    (hgiven : ∀ member ∈ given, member.2.fits numbers levels)
    (h : (Fields.list name codec other).build given = .ok values)
    (hmap : ∀ value ∈ values, codec.ReadsIn numbers (levels - 1) value →
      target.ReadsIn numbers (levels - 1) (f value)) :
    SpelledIn (Fields.list name target get) numbers levels (values.map f) [name] := by
  cases hvalues : values with
  | nil => exact of_absent
  | cons first rest =>
      rw [← hvalues]
      have hfirst : first ∈ values := by simp [hvalues]
      obtain ⟨items, hmember, -⟩ := member_of_list h hfirst
      have hlevels : 0 < levels := (Json.fits_arr.mp (hgiven _ hmember)).1
      exact list hlevels (List.forall_mem_map.mpr fun value hvalue =>
        hmap value hvalue (readsIn_of_list hgiven h hvalue))

theorem optional_map {get : σ → Option β} {other : τ → Option α} {item : Option α}
    (hnull : ∀ {value}, target.decode .null ≠ .ok value)
    (hgiven : ∀ member ∈ given, member.2.fits numbers levels)
    (h : (Fields.optional name codec other).build given = .ok item)
    (hmap : ∀ value, item = some value → codec.ReadsIn numbers levels value →
      target.ReadsIn numbers levels (f value)) :
    SpelledIn (Fields.optional name target get) numbers levels (item.map f) [name] := by
  refine optional hnull fun value hvalue => ?_
  obtain ⟨original, horiginal, rfl⟩ := Option.map_eq_some_iff.mp hvalue
  exact hmap original horiginal (readsIn_of_optional hgiven h horiginal)

/-- A field with a default that is made of the other record's default. -/
theorem default_map {get : σ → β} {other : τ → α} {absent value : α} {blank : β}
    {render : α → Option Json} {write : β → Option Json} (hblank : f absent = blank)
    (hgiven : ∀ member ∈ given, member.2.fits numbers levels)
    (h : (field name codec.decode (some absent) render other).build given = .ok value)
    (hmap : codec.ReadsIn numbers levels value → target.ReadsIn numbers levels (f value)) :
    SpelledIn (field name target.decode (some blank) write get) numbers levels (f value)
      [name] := by
  simp only [field] at h
  split at h
  case h_1 document hlookup =>
    have hfits := hgiven _ (KeyMap.mem_of_lookup hlookup)
    exact of_readsIn (hmap ⟨document, hfits, Except.mapError_eq_ok_iff.mp h⟩)
  case h_2 =>
    obtain rfl := Except.ok.inj h
    rw [hblank]
    exact of_absent

end SpelledIn

end Fields

/-- A record is read from an object of the members that its fields are spelled by. -/
theorem Fields.SpelledIn.readsIn (h : fields.SpelledIn numbers levels value keys)
    (hkeys : keys.Nodup) :
    (Codec.record typeName fields).ReadsIn numbers (levels + 1) value := by
  obtain ⟨spelling, hfits, hspelling⟩ := h hkeys
  have hbuild : fields.build (KeyMap.sort (membersUnder keys spelling)) = .ok value :=
    hspelling fun key hkey => by
      rw [KeyMap.lookup_sort (nodup_membersUnder hkeys), lookup_membersUnder hkey]
  refine ⟨.obj (KeyMap.sort (membersUnder keys spelling)), ?_,
    Except.mapError_eq_ok_iff.mpr hbuild⟩
  refine Json.fits_obj.mpr ⟨by omega, KeyMap.ascending_sort _, fun member hmember => ?_⟩
  obtain ⟨hkey, hitem⟩ := mem_membersUnder.mp (KeyMap.mem_of_mem_sort hmember)
  exact hfits _ hkey _ hitem

end HubSpoke
