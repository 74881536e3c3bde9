import HubSpoke.Proofs.Record.Codec
import HubSpoke.Record.Fields

/-!
# What records keep

A record is read from some members and rendered as others.  Each field finds in the rendered
members what it needs to be built again: the member it rendered or, where it rendered none, the
default that is as good.  `Fields.Echoes` says so of a group of fields, groups side by side echo
when no name is used twice, and a record whose fields echo has a lawful codec.

`Fields.Builds` takes apart how a record was built, one field after the other.
-/

namespace HubSpoke

namespace Fields

variable {σ τ α β : Type}

/-! ## How a record is built -/

/-- The fields build a value that satisfies a predicate. -/
def Builds (fields : Fields σ α) (given : List (String × Json)) (P : α → Prop) : Prop :=
  ∃ value, fields.build given = .ok value ∧ P value

theorem builds_seq {first : Fields σ (α → β)} {second : Fields σ α}
    {given : List (String × Json)} {P : β → Prop} :
    Builds (first <*> second) given P ↔
      Builds first given fun f => Builds second given fun value => P (f value) := by
  simp only [Builds, Seq.seq, Fields.seq]
  cases first.build given <;> cases second.build given <;> simp

theorem builds_map {f : α → β} {fields : Fields σ α} {given : List (String × Json)}
    {P : β → Prop} : Builds (f <$> fields) given P ↔ Builds fields given fun a => P (f a) := by
  have hmap : f <$> fields = pure f <*> fields := rfl
  rw [hmap, builds_seq]
  simp [Builds, pure, Fields.pure]

theorem builds_spread {part : Fields τ α} {get : σ → τ} {given : List (String × Json)}
    {P : α → Prop} : Builds (spread part get) given P ↔ Builds part given P := by
  simp [Builds, spread, Except.mapError_eq_ok_iff]

/-! ## What fields are decoded from -/

theorem member_of_optional {name : String} {codec : Codec α} {get : σ → Option α}
    {given : List (String × Json)} {value : α}
    (h : (optional name codec get).build given = .ok (some value)) :
    ∃ document, (name, document) ∈ given ∧ codec.decode document = .ok value := by
  simp only [optional, field] at h
  split at h
  case h_1 document hlookup =>
    have hdecode := Except.mapError_eq_ok_iff.mp h
    cases document with
    | null => exact absurd hdecode (by simp [Codec.optional])
    | _ =>
        obtain ⟨_, hdecode, heq⟩ := Except.map_eq_ok_iff.mp hdecode
        exact ⟨_, KeyMap.mem_of_lookup hlookup, Option.some.inj heq ▸ hdecode⟩
  case h_2 => exact absurd h (by simp)

theorem decoded_of_optional {name : String} {codec : Codec α} {get : σ → Option α}
    {given : List (String × Json)} {result : Option α}
    (h : (optional name codec get).build given = .ok result) {value : α}
    (hvalue : result = some value) : ∃ document, codec.decode document = .ok value :=
  let ⟨document, _, hdecode⟩ := member_of_optional (hvalue ▸ h)
  ⟨document, hdecode⟩

theorem member_of_list {name : String} {codec : Codec α} {get : σ → List α}
    {given : List (String × Json)} {values : List α}
    (h : (list name codec get).build given = .ok values) {value : α} (hvalue : value ∈ values) :
    ∃ items, (name, .arr items) ∈ given ∧ ∃ item ∈ items, codec.decode item = .ok value := by
  simp only [list, field] at h
  split at h
  case h_1 document hlookup =>
    obtain ⟨items, rfl, hitems⟩ := Codec.Lawful.items_of_list (Except.mapError_eq_ok_iff.mp h)
    exact ⟨items, KeyMap.mem_of_lookup hlookup, Except.exists_of_mem_mapM hitems hvalue⟩
  case h_2 =>
    obtain rfl := Except.ok.inj h
    simp at hvalue

theorem decoded_of_list {name : String} {codec : Codec α} {get : σ → List α}
    {given : List (String × Json)} {values : List α}
    (h : (list name codec get).build given = .ok values) {value : α} (hvalue : value ∈ values) :
    ∃ document, codec.decode document = .ok value :=
  let ⟨_, _, item, _, hitem⟩ := member_of_list h hvalue
  ⟨item, hitem⟩

/-- A field with a default was decoded from a member or, like its default, from a document that
stands for it. -/
theorem decoded_of_default {name : String} {codec : Codec α} {absent value : α}
    {render : α → Option Json} {get : σ → α} {given : List (String × Json)} {blank : Json}
    (hblank : codec.decode blank = .ok absent)
    (h : (field name codec.decode (some absent) render get).build given = .ok value) :
    ∃ document, codec.decode document = .ok value ∧
      (document = blank ∨ ∃ key, (key, document) ∈ given) := by
  simp only [field] at h
  split at h
  case h_1 document hlookup =>
    exact ⟨document, Except.mapError_eq_ok_iff.mp h, .inr ⟨name, KeyMap.mem_of_lookup hlookup⟩⟩
  case h_2 =>
    obtain rfl := Except.ok.inj h
    exact ⟨blank, hblank, .inl rfl⟩

/-! ## Fields that echo -/

/-- The fields render of a record members from which they build a value; where floats are replaced
in the members, `value` is what the replacement makes of it. -/
structure Echoes (fields : Fields σ α) (change : Binary64 → Json) (given : List (String × Json))
    (floor : Nat) (record : σ) (value : α) (keys : List String) : Prop where
  sublist : ((fields.members record).map Prod.fst).Sublist keys
  fits {numbers : Json.Numbers} {levels : Nat}
    (hgiven : ∀ member ∈ given, member.2.fits numbers levels) :
    ∀ member ∈ fields.members record, member.2.fits numbers (max levels floor)
  rebuild (hchange : Json.Numeric change) (hkeys : keys.Nodup) {again : List (String × Json)}
    (hagain : ∀ key ∈ keys, again.lookup key =
      ((fields.members record).lookup key).map (Json.mapFloats change)) :
    fields.build again = .ok value

namespace Echoes

variable {change : Binary64 → Json} {given : List (String × Json)} {floor level : Nat} {record : σ}
  {follow : (Binary64 → Json) → α → α} {codec : Codec α} {name : String} {get : σ → α}

theorem map {fields : Fields σ α} {value : α} {keys : List String} {f : α → β}
    (h : Echoes fields change given floor record value keys) :
    Echoes (f <$> fields) change given floor record (f value) keys where
  sublist := h.sublist
  fits := h.fits
  rebuild hchange hkeys again hagain := by
    have hbuild : (f <$> fields).Builds again (· = f value) :=
      builds_map.mpr ⟨value, h.rebuild hchange hkeys hagain, rfl⟩
    obtain ⟨_, hbuild, rfl⟩ := hbuild
    exact hbuild

/-- Two groups without a common name. -/
theorem seq {first : Fields σ (α → β)} {second : Fields σ α} {f : α → β} {value : α}
    {keys more : List String} (hfirst : Echoes first change given floor record f keys)
    (hsecond : Echoes second change given level record value more) :
    Echoes (first <*> second) change given (max floor level) record (f value) (keys ++ more) where
  sublist := by
    change ((first.members record ++ second.members record).map Prod.fst).Sublist _
    rw [List.map_append]
    exact hfirst.sublist.append hsecond.sublist
  fits hgiven member hmember := by
    rcases List.mem_append.mp hmember with hmember | hmember
    · exact Json.fits_mono (hfirst.fits hgiven member hmember) (by omega)
    · exact Json.fits_mono (hsecond.fits hgiven member hmember) (by omega)
  rebuild hchange hkeys again hagain := by
    obtain ⟨hnodup, hmore, hdisjoint⟩ := List.nodup_append.mp hkeys
    -- neither group renders a member under a name of the other, so each finds its own
    have hone : first.build again = .ok f := by
      refine hfirst.rebuild hchange hnodup fun key hkey => ?_
      have hother : (second.members record).lookup key = none :=
        KeyMap.lookup_eq_none_of_not_mem fun hmem =>
          hdisjoint key hkey key (hsecond.sublist.subset hmem) rfl
      have happend := hagain key (List.mem_append_left _ hkey)
      change _ = ((first.members record ++ second.members record).lookup key).map _ at happend
      rwa [List.lookup_append, hother, Option.or_none] at happend
    have htwo : second.build again = .ok value := by
      refine hsecond.rebuild hchange hmore fun key hkey => ?_
      have hother : (first.members record).lookup key = none :=
        KeyMap.lookup_eq_none_of_not_mem fun hmem =>
          hdisjoint key (hfirst.sublist.subset hmem) key hkey rfl
      have happend := hagain key (List.mem_append_right _ hkey)
      change _ = ((first.members record ++ second.members record).lookup key).map _ at happend
      rwa [List.lookup_append, hother, Option.none_or] at happend
    have hbuild : (first <*> second).Builds again (· = f value) :=
      builds_seq.mpr ⟨f, hone, value, htwo, rfl⟩
    obtain ⟨_, hbuild, rfl⟩ := hbuild
    exact hbuild

theorem spread {part : Fields τ α} {get : σ → τ} {value : α} {keys : List String}
    (h : Echoes part change given floor (get record) value keys) :
    Echoes (Fields.spread part get) change given floor record value keys where
  sublist := h.sublist
  fits := h.fits
  rebuild hchange hkeys _ hagain :=
    Except.mapError_eq_ok_iff.mpr (h.rebuild hchange hkeys hagain)

/-- A single field.  Its value was decoded, or it is the default, which is either left out or might
have been decoded. -/
theorem field {absent : Option α} {render : α → Option Json} (hcodec : codec.Lawful follow level)
    (hbuild : (Fields.field name codec.decode absent render get).build given = .ok (get record))
    (hhidden : render (get record) = none → absent = some (follow change (get record)))
    (hrender : ∀ encoded, render (get record) = some encoded → encoded = codec.encode (get record))
    (hdefault : (render (get record)).isSome → absent = some (get record) →
      ∃ blank, codec.decode blank = .ok (get record) ∧ ∀ numbers, blank.fits numbers level) :
    Echoes (Fields.field name codec.decode absent render get) change given level record
      (follow change (get record)) [name] := by
  -- a rendered value has a document it was decoded from
  have hsource : ∀ encoded, render (get record) = some encoded →
      ∃ document, codec.decode document = .ok (get record) ∧
        ∀ {numbers levels}, (∀ member ∈ given, member.2.fits numbers levels) →
          document.fits numbers (max levels level) := by
    intro encoded hencoded
    simp only [Fields.field] at hbuild
    split at hbuild
    case h_1 document hlookup =>
      refine ⟨document, Except.mapError_eq_ok_iff.mp hbuild, fun hgiven => ?_⟩
      exact Json.fits_mono (hgiven _ (KeyMap.mem_of_lookup hlookup)) (by omega)
    case h_2 =>
      split at hbuild
      case h_1 value =>
        obtain rfl := Except.ok.inj hbuild
        obtain ⟨blank, hblank, hfits⟩ := hdefault (by simp [hencoded]) rfl
        exact ⟨blank, hblank, fun {numbers _} _ => Json.fits_mono (hfits numbers) (by omega)⟩
      case h_2 => cases hbuild
  cases hshown : render (get record) with
  | none =>
      constructor
      · simp [Fields.field, hshown]
      · simp [Fields.field, hshown]
      · intro _ _ again hagain
        have hlookup : again.lookup name = none := by
          simpa [Fields.field, hshown] using hagain name (by simp)
        simp [Fields.field, hlookup, hhidden hshown]
  | some encoded =>
      obtain ⟨document, hdecode, hfits⟩ := hsource encoded hshown
      obtain rfl := hrender encoded hshown
      constructor
      · simp [Fields.field, hshown]
      · intro numbers levels hgiven
        have hencoded : (codec.encode (get record)).fits numbers (max levels level) :=
          Json.fits_mono (hcodec.fits (hfits hgiven) hdecode) (by omega)
        simpa [Fields.field, hshown] using hencoded
      · intro hchange _ again hagain
        have hlookup : again.lookup name = some ((codec.encode (get record)).mapFloats change) := by
          simpa [Fields.field, hshown] using hagain name (by simp)
        simp [Fields.field, hlookup, hcodec.redecode hchange hdecode, Except.mapError]

theorem required (hcodec : codec.Lawful follow level)
    (hbuild : (Fields.required name codec get).build given = .ok (get record)) :
    Echoes (Fields.required name codec get) change given level record
      (follow change (get record)) [name] :=
  field hcodec hbuild nofun (fun _ h => (Option.some.inj h).symm) nofun

/-- A field that is always rendered needs a document for its default. -/
theorem shown {absent : α} (blank : Json) (hcodec : codec.Lawful follow level)
    (hbuild : (Fields.shown name codec absent get).build given = .ok (get record))
    (hblank : codec.decode blank = .ok absent) (hfits : blank.fits .whole level) :
    Echoes (Fields.shown name codec absent get) change given level record
      (follow change (get record)) [name] :=
  field hcodec hbuild nofun (fun _ h => (Option.some.inj h).symm)
    fun _ h => ⟨blank, Option.some.inj h ▸ hblank, fun _ => Json.fits_of_whole hfits⟩

/-- A field that is left out where it holds its default. -/
theorem hidden [DecidableEq α] {absent : α} (hcodec : codec.Plain level)
    (hbuild : (Fields.hidden name codec absent get).build given = .ok (get record)) :
    Echoes (Fields.hidden name codec absent get) change given level record (get record) [name] := by
  refine field hcodec hbuild (fun h => ?_) (fun encoded h => ?_) (fun h habsent => ?_)
  · simpa [eq_comm] using h
  · split at h
    · cases h
    · exact (Option.some.inj h).symm
  · simp [Option.some.inj habsent] at h

theorem text {get : σ → String} (hbuild : (Fields.text name get).build given = .ok (get record)) :
    Echoes (Fields.text name get) change given 0 record (get record) [name] :=
  hidden .text hbuild

theorem flag {get : σ → Bool} (hbuild : (Fields.flag name get).build given = .ok (get record)) :
    Echoes (Fields.flag name get) change given 0 record (get record) [name] :=
  hidden .flag hbuild

theorem list {get : σ → List α} (hcodec : codec.Lawful follow level)
    (hbuild : (Fields.list name codec get).build given = .ok (get record)) :
    Echoes (Fields.list name codec get) change given (level + 1) record
      ((get record).map (follow change)) [name] := by
  refine field hcodec.list hbuild (fun h => ?_) (fun encoded h => ?_) (fun h habsent => ?_)
  · have hnil : get record = [] := by simpa using h
    simp [hnil]
  · split at h
    · cases h
    · exact (Option.some.inj h).symm
  · simp [← Option.some.inj habsent] at h

/-- A list of values that hold no JSON values. -/
theorem plainList {get : σ → List α} (hcodec : codec.Plain level)
    (hbuild : (Fields.list name codec get).build given = .ok (get record)) :
    Echoes (Fields.list name codec get) change given (level + 1) record (get record) [name] := by
  have h : Echoes (Fields.list name codec get) change given (level + 1) record
      ((get record).map fun value => value) [name] := list hcodec hbuild
  simpa using h

theorem textMap {get : σ → KeyMap String}
    (hbuild : (Fields.textMap name get).build given = .ok (get record)) :
    Echoes (Fields.textMap name get) change given 1 record (get record) [name] := by
  refine field (Codec.Lawful.text.map) hbuild (fun h => ?_) (fun encoded h => ?_)
    (fun h habsent => ?_)
  · have hempty : (get record).entries = [] := by simpa [KeyMap.isEmpty] using h
    exact congrArg some (KeyMap.ext_find? fun key => by simp [KeyMap.find?, KeyMap.empty, hempty])
  · split at h
    · cases h
    · exact (Option.some.inj h).symm
  · simp [← Option.some.inj habsent, KeyMap.isEmpty, KeyMap.empty] at h

theorem optional {get : σ → Option α} (hcodec : codec.Lawful follow level)
    (hbuild : (Fields.optional name codec get).build given = .ok (get record)) :
    Echoes (Fields.optional name codec get) change given level record
      ((get record).map (follow change)) [name] := by
  refine field hcodec.optional hbuild (fun h => ?_) (fun encoded h => ?_) (fun h habsent => ?_)
  · simp [Option.map_eq_none_iff.mp h]
  · obtain ⟨value, hvalue, rfl⟩ := Option.map_eq_some_iff.mp h
    rw [hvalue]
    rfl
  · simp [← Option.some.inj habsent] at h

/-- An optional value that holds no JSON value. -/
theorem plainOptional {get : σ → Option α} (hcodec : codec.Plain level)
    (hbuild : (Fields.optional name codec get).build given = .ok (get record)) :
    Echoes (Fields.optional name codec get) change given level record (get record) [name] := by
  have h : Echoes (Fields.optional name codec get) change given level record
      ((get record).map fun value => value) [name] := optional hcodec hbuild
  simpa using h

end Echoes

end Fields

/-! ## Codecs of records -/

namespace Codec.Lawful

variable {σ : Type} {fields : Fields σ σ} {typeName : String} {keys : List String} {floor : Nat}
  {follow : (Binary64 → Json) → σ → σ}

/-- The members that a decoded record was built from stand one level below it. -/
theorem members_of_record {superfluous : Nat → Nat → Mismatch} {document : Json} {value : σ}
    (hdecode : (recordWith superfluous typeName fields).decode document = .ok value) :
    ∃ given, fields.build given = .ok value ∧ ∀ {numbers levels}, document.fits numbers levels →
      0 < levels ∧ ∀ member ∈ given, member.2.fits numbers (levels - 1) := by
  cases document with
  | obj members =>
      refine ⟨members, Except.mapError_eq_ok_iff.mp hdecode, fun hfits => ?_⟩
      obtain ⟨hlevels, -, hmembers⟩ := Json.fits_obj.mp hfits
      exact ⟨hlevels, hmembers⟩
  | arr items =>
      refine ⟨fields.names.zip items, ?_, fun hfits => ?_⟩
      · simp only [recordWith] at hdecode
        split at hdecode
        · cases hdecode
        · split at hdecode
          · cases hdecode
          · split at hdecode
            · cases hdecode
            · obtain rfl := Except.ok.inj hdecode
              assumption
      · obtain ⟨hlevels, hitems⟩ := Json.fits_arr.mp hfits
        exact ⟨hlevels, fun member hmember => hitems _ (List.of_mem_zip hmember).2⟩
  | _ => cases hdecode

/-- A record reads back when its fields echo and no name is used twice. -/
theorem recordWith {superfluous : Nat → Nat → Mismatch}
    (hfields : ∀ {change given value}, fields.build given = .ok value →
      fields.Echoes change given floor value (follow change value) keys)
    (hkeys : keys.Nodup) :
    (Codec.recordWith superfluous typeName fields).Lawful follow (floor + 1) where
  redecode {change document value} hchange hdecode := by
    obtain ⟨given, hbuild, -⟩ := members_of_record hdecode
    have hechoes : fields.Echoes change given floor value (follow change value) keys :=
      hfields hbuild
    have hagain : fields.build ((KeyMap.sort (fields.members value)).map fun member =>
        (member.1, member.2.mapFloats change)) = .ok (follow change value) :=
      hechoes.rebuild hchange hkeys fun key _ => by
        rw [KeyMap.lookup_map_values (Json.mapFloats change),
          KeyMap.lookup_sort (hechoes.sublist.nodup hkeys)]
    simp [Codec.recordWith, Json.ofMembers, hagain, Except.mapError]
  fits {numbers levels document value} hfits hdecode := by
    obtain ⟨given, hbuild, hgiven⟩ := members_of_record hdecode
    obtain ⟨hlevels, hmembers⟩ := hgiven hfits
    refine Json.fits_obj.mpr ⟨by omega, KeyMap.ascending_sort _, fun member hmember => ?_⟩
    have hechoes : fields.Echoes .float given floor value (follow .float value) keys :=
      hfields hbuild
    have hmember := hechoes.fits hmembers member (KeyMap.mem_of_mem_sort hmember)
    exact Json.fits_mono hmember (by omega)
  notNull _ _ := nofun

/-- A decoded record was built from some members, which stand one level below it. -/
theorem builds_of_record {document : Json} {value : σ}
    (hdecode : (Codec.record typeName fields).decode document = .ok value) :
    ∃ given, fields.Builds given (· = value) ∧ ∀ {numbers levels}, document.fits numbers levels →
      0 < levels ∧ ∀ member ∈ given, member.2.fits numbers (levels - 1) := by
  obtain ⟨given, hbuild, hgiven⟩ := members_of_record hdecode
  exact ⟨given, ⟨value, hbuild, rfl⟩, hgiven⟩

theorem record
    (hfields : ∀ {change given value}, fields.Builds given (· = value) →
      fields.Echoes change given floor value (follow change value) keys)
    (hkeys : keys.Nodup) : (Codec.record typeName fields).Lawful follow (floor + 1) :=
  recordWith (fun hbuild => hfields ⟨_, hbuild, rfl⟩) hkeys

theorem recordInSpread
    (hfields : ∀ {change given value}, fields.Builds given (· = value) →
      fields.Echoes change given floor value (follow change value) keys)
    (hkeys : keys.Nodup) :
    (Codec.recordInSpread typeName fields).Lawful follow (floor + 1) :=
  recordWith (fun hbuild => hfields ⟨_, hbuild, rfl⟩) hkeys

end Codec.Lawful

end HubSpoke
