import HubSpoke.Policy.Metadata
import HubSpoke.Proofs.Record.Spelled

/-!
# Metadata keeps its keys

Metadata is built of its named fields and of all members under other names.  The two groups share no
key, so rendering one after the other gives back the document's members, in another order.
-/

namespace HubSpoke

instance {α : Type} [HoldsFloats α] : HoldsFloats (KeyMap α) where
  mapFloats change := KeyMap.mapValues (mapFloats change)
  mapFloats_float m := KeyMap.ext_find? fun key => by
    rw [KeyMap.find?_mapValues]
    cases m.find? key <;> simp [mapFloats_float]

instance : HoldsFloats Metadata where
  mapFloats change m := { m with extra := mapFloats change m.extra }
  mapFloats_float m := by simp only [mapFloats_float]

namespace Metadata

open Codec.Lawful (builds_of_record)
open Fields (builds_seq builds_map Echoes Spelled)

/-- The fields with names of their own. -/
def named : Fields Metadata (KeyMap Json → Metadata) :=
  Metadata.mk
    <$> .text "name" Metadata.name
    <*> .optional "namespace" .text Metadata.namespaceName
    <*> .optional "uid" .text Metadata.uid
    <*> .optional "resourceVersion" .text Metadata.resourceVersion
    <*> .optional "generation" .int64 Metadata.generation
    <*> .textMap "labels" Metadata.labels
    <*> .textMap "annotations" Metadata.annotations

variable {given : List (String × Json)} {m : Metadata} {change : Binary64 → Json}

/-- The members under other names. -/
def unnamed (members : List (String × Json)) : List (String × Json) :=
  members.filter fun member => !declared.contains member.1

theorem fields_echo (h : fields.Builds given (· = m)) :
    named.Echoes change given 1 m (fun extra => { m with extra }) declared ∧
      m.extra = .ofList (unnamed given) := by
  simp only [fields, builds_seq, builds_map] at h
  obtain ⟨name, hname, namespaceName, hnamespaceName, uid, huid, resourceVersion,
    hresourceVersion, generation, hgeneration, labels, hlabels, annotations, hannotations,
    extra, hextra, rfl⟩ := h
  refine ⟨?_, (Except.ok.inj hextra).symm⟩
  exact (Echoes.text hname).map
    |>.seq (.plainOptional .text hnamespaceName)
    |>.seq (.plainOptional .text huid)
    |>.seq (.plainOptional .text hresourceVersion)
    |>.seq (.plainOptional .int64 hgeneration)
    |>.seq (.textMap hlabels)
    |>.seq (.textMap hannotations)

theorem lookup_unnamed (members : List (String × Json)) (key : String) :
    (unnamed members).lookup key = if key ∈ declared then none else members.lookup key := by
  have hlookup := @KeyMap.lookup_filter _ key members fun other => !declared.contains other
  by_cases hkey : key ∈ declared <;> simpa [unnamed, hkey] using hlookup

/-- Every other key comes from the document, and has no field. -/
theorem mem_of_extra (h : m.extra = .ofList (unnamed given)) {member : String × Json}
    (hmember : member ∈ m.extra.entries) : member ∈ given ∧ member.1 ∉ declared := by
  rw [h] at hmember
  have hmem := List.mem_filter.mp (KeyMap.mem_of_mem_sort hmember)
  exact ⟨hmem.1, by simpa using hmem.2⟩

theorem find?_extra_eq_none (h : m.extra = .ofList (unnamed given)) {key : String}
    (hkey : key ∈ declared) : m.extra.find? key = none := by
  refine KeyMap.lookup_eq_none_of_not_mem fun hmem => ?_
  obtain ⟨member, hmember, rfl⟩ := List.mem_map.mp hmem
  exact (mem_of_extra h hmember).2 hkey

/-- The members of the two groups have names of their own. -/
theorem nodup_members (hnamed : ((named.members m).map Prod.fst).Sublist declared)
    (hextra : m.extra = .ofList (unnamed given)) : ((fields.members m).map Prod.fst).Nodup := by
  change ((named.members m ++ m.extra.entries).map Prod.fst).Nodup
  rw [List.map_append]
  refine List.nodup_append.mpr ⟨hnamed.nodup (by decide),
    KeyMap.nodup_of_ascending m.extra.ascending, ?_⟩
  rintro key hkey other hother rfl
  obtain ⟨member, hmember, rfl⟩ := List.mem_map.mp hother
  exact (mem_of_extra hextra hmember).2 (hnamed.subset hkey)

/-- What is rendered under a name of a field comes from the field, and what is rendered under
another from the other keys. -/
theorem lookup_members (hnamed : ((named.members m).map Prod.fst).Sublist declared)
    (hextra : m.extra = .ofList (unnamed given)) (key : String) :
    (fields.members m).lookup key =
      if key ∈ declared then (named.members m).lookup key else m.extra.find? key := by
  change (named.members m ++ m.extra.entries).lookup key = _
  rw [List.lookup_append]
  split
  case isTrue hkey =>
    have hnone : m.extra.entries.lookup key = none := find?_extra_eq_none hextra hkey
    rw [hnone, Option.or_none]
  case isFalse hkey =>
    rw [KeyMap.lookup_eq_none_of_not_mem fun hmem => hkey (hnamed.subset hmem), Option.none_or]
    rfl

/-- Metadata is built again of its members, whatever their order. -/
theorem build_of_lookup {again : List (String × Json)} (hchange : Json.Numeric change)
    (hnamed : named.Echoes change given 1 m (fun extra => { m with extra }) declared)
    (hextra : m.extra = .ofList (unnamed given)) (hnodup : (again.map Prod.fst).Nodup)
    (hagain : ∀ key, again.lookup key =
      ((fields.members m).lookup key).map (Json.mapFloats change)) :
    fields.build again = .ok (mapFloats change m) := by
  have hone : named.build again = .ok fun extra => { m with extra } := by
    refine hnamed.rebuild hchange (by decide) fun key hkey => ?_
    rw [hagain, lookup_members hnamed.sublist hextra, if_pos hkey]
  -- the other keys are those of the members that no field looks for
  have htwo : KeyMap.ofList (unnamed again) = mapFloats change m.extra := by
    refine KeyMap.ext_find? fun key => ?_
    have hunnamed : ((unnamed again).map Prod.fst).Nodup :=
      hnodup.sublist (List.filter_sublist.map _)
    change (KeyMap.sort (unnamed again)).lookup key = (m.extra.mapValues _).find? key
    rw [KeyMap.lookup_sort hunnamed, lookup_unnamed, KeyMap.find?_mapValues, hagain,
      lookup_members hnamed.sublist hextra]
    split
    case isTrue hkey => rw [find?_extra_eq_none hextra hkey]; rfl
    case isFalse => rfl
  have hbuild : fields.Builds again (· = mapFloats change m) :=
    builds_seq.mpr ⟨_, hone, _, congrArg Except.ok htwo, rfl⟩
  obtain ⟨_, hbuild, rfl⟩ := hbuild
  exact hbuild

theorem codec_lawful : codec.Lawful mapFloats 2 where
  redecode {change document m} hchange hdecode := by
    obtain ⟨given, hbuild, -⟩ := builds_of_record hdecode
    obtain ⟨hnamed, hextra⟩ := @fields_echo _ _ change hbuild
    have hnodup := nodup_members hnamed.sublist hextra
    have hagain : fields.build ((KeyMap.sort (fields.members m)).map fun member =>
        (member.1, member.2.mapFloats change)) = .ok (mapFloats change m) := by
      refine build_of_lookup hchange hnamed hextra ?_ fun key => ?_
      · rw [List.map_map]
        exact KeyMap.nodup_of_ascending (KeyMap.ascending_sort _)
      · rw [KeyMap.lookup_map_values (Json.mapFloats change), KeyMap.lookup_sort hnodup]
    simp [codec, Codec.record, Codec.recordWith, Json.ofMembers, hagain, Except.mapError]
  fits {numbers levels document m} hfits hdecode := by
    obtain ⟨given, hbuild, hgiven⟩ := builds_of_record hdecode
    obtain ⟨hlevels, hmembers⟩ := hgiven hfits
    obtain ⟨hnamed, hextra⟩ := @fields_echo _ _ .float hbuild
    refine Json.fits_obj.mpr ⟨by omega, KeyMap.ascending_sort _, fun member hmember => ?_⟩
    rcases List.mem_append.mp (KeyMap.mem_of_mem_sort hmember) with hmember | hmember
    · exact Json.fits_mono (hnamed.fits hmembers member hmember) (by omega)
    · exact Json.fits_mono (hmembers member (mem_of_extra hextra hmember).1) (by omega)
  notNull _ _ := nofun

/-- Named fields that can be spelled go with the other keys of any document. -/
theorem reads_of_named {make : KeyMap Json → Metadata} (h : named.Spelled make declared)
    (given : List (String × Json)) : codec.Reads (make (.ofList (unnamed given))) := by
  obtain ⟨spelling, -, hspelling⟩ := h (by decide)
  let again := membersUnder declared spelling ++ unnamed given
  have hone : named.build again = .ok make := by
    refine hspelling fun key hkey => ?_
    rw [List.lookup_append, lookup_membersUnder hkey, lookup_unnamed, if_pos hkey, Option.or_none]
  -- what the fields are spelled by is not taken for another key
  have hothers : unnamed again = unnamed given := by
    have hunder : unnamed (membersUnder declared spelling) = [] :=
      List.filter_eq_nil_iff.mpr fun member hmember => by
        simpa using (mem_membersUnder.mp hmember).1
    calc unnamed again = unnamed (membersUnder declared spelling) ++ unnamed (unnamed given) :=
          List.filter_append ..
      _ = unnamed given := by rw [hunder, List.nil_append]; simp [unnamed]
  have htwo : (Fields.others declared Metadata.extra).build again = .ok (.ofList (unnamed given)) :=
    congrArg (Except.ok ∘ KeyMap.ofList) hothers
  have hbuild : fields.Builds again (· = make (.ofList (unnamed given))) :=
    builds_seq.mpr ⟨make, hone, _, htwo, rfl⟩
  obtain ⟨_, hbuild, rfl⟩ := hbuild
  exact ⟨.obj again, Except.mapError_eq_ok_iff.mpr hbuild⟩

/-- Metadata that can be read can be read with any annotations. -/
theorem reads_annotations (h : codec.Reads m) (annotations : KeyMap String) :
    codec.Reads { m with annotations } := by
  obtain ⟨document, hdecode⟩ := h
  obtain ⟨given, hbuild, -⟩ := builds_of_record hdecode
  simp only [fields, builds_seq, builds_map] at hbuild
  obtain ⟨name, -, namespaceName, hnamespaceName, uid, huid, resourceVersion, hresourceVersion,
    generation, hgeneration, labels, -, _, -, extra, hextra, rfl⟩ := hbuild
  have hnamed : named.Spelled (Metadata.mk name namespaceName uid resourceVersion generation
      labels annotations) declared :=
    (Spelled.text name).map
      |>.seq (.of_build hnamespaceName)
      |>.seq (.of_build huid)
      |>.seq (.of_build hresourceVersion)
      |>.seq (.of_build hgeneration)
      |>.seq (.textMap labels)
      |>.seq (.textMap annotations)
  obtain rfl := Except.ok.inj hextra
  exact reads_of_named hnamed given

end Metadata

end HubSpoke
