import HubSpoke.Proofs.Mapping.NormalForm

/-!
# What spells a condition block

A condition block is written as null, as a list of conditions of which one must hold, or as an
object that has such lists under `any` and `all` and nothing else.  `ConditionBlock.WrittenAs` is
this grammar, told without the codec of blocks.

The parser looks for the two lists and for nothing else.  So it takes an object with further
members for the one without them, and an object whose keys are all misspelled for the empty block.
Apart from that it accepts the grammar and no more, and where it accepts it loses no condition.
-/

namespace HubSpoke.ConditionBlock

/-! ## The grammar -/

/-- The keys under which an object lists conditions. -/
def listKeys : List String := ["any", "all"]

/-- The value is a list of one item for each condition, in their order. -/
def Lists (document : Json) (conditions : List Condition) : Prop :=
  ∃ items, document = .arr items ∧
    List.Forall₂ (fun item condition => Condition.codec.decode item = .ok condition) items
      conditions

/-- The member under the key lists the conditions; where it is missing there are none. -/
def ListsUnder (key : String) (members : List (String × Json)) (conditions : List Condition) :
    Prop :=
  match members.lookup key with
  | some document => Lists document conditions
  | none => conditions = []

/-- The ways to write a block. -/
inductive WrittenAs : Json → ConditionBlock → Prop where
  | null : WrittenAs .null {}
  | list {items : List Json} {any : List Condition} (hany : Lists (.arr items) any) :
      WrittenAs (.arr items) { any }
  | object {members : List (String × Json)} {any all : List Condition}
      (hkeys : ∀ member ∈ members, member.1 ∈ listKeys) (hany : ListsUnder "any" members any)
      (hall : ListsUnder "all" members all) : WrittenAs (.obj members) { any, all }

/-- The value without the members that list no conditions. -/
def withoutOthers : Json → Json
  | .obj members => .obj (members.filter fun member => listKeys.contains member.1)
  | other => other

variable {raw : Json} {block : ConditionBlock} {members : List (String × Json)}
  {conditions : List Condition} {key : String}

theorem withoutOthers_eq_self_iff :
    withoutOthers raw = raw ↔
      ∀ members, raw = .obj members → ∀ member ∈ members, member.1 ∈ listKeys := by
  cases raw <;> simp [withoutOthers]

theorem WrittenAs.withoutOthers_eq (h : WrittenAs raw block) : withoutOthers raw = raw := by
  rw [withoutOthers_eq_self_iff]
  rintro members rfl
  cases h with
  | object hkeys _ _ => exact hkeys

/-! ## What the parser accepts -/

theorem decode_list_iff {document : Json} :
    (Codec.list Condition.codec).decode document = .ok conditions ↔ Lists document conditions := by
  cases document with
  | arr items => simp [Codec.list, Lists, Except.mapM_eq_ok_iff]
  | _ => simp [Codec.list, Lists]

theorem builds_list_iff {get : ConditionBlock → List Condition} {P : List Condition → Prop} :
    (Fields.list key Condition.codec get).Builds members P ↔
      ∃ conditions, ListsUnder key members conditions ∧ P conditions := by
  refine exists_congr fun conditions => and_congr_left fun _ => ?_
  simp only [Fields.list, Fields.field, ListsUnder]
  cases members.lookup key with
  | some document => exact Except.mapError_eq_ok_iff.trans decode_list_iff
  | none => simp [eq_comm]

theorem decode_obj_iff :
    codec.decode (.obj members) = .ok block ↔
      ListsUnder "any" members block.any ∧ ListsUnder "all" members block.all := by
  have hbuilds : codec.decode (.obj members) = .ok block ↔
      (ConditionBlock.mk <$> Fields.list "any" Condition.codec ConditionBlock.any
        <*> Fields.list "all" Condition.codec ConditionBlock.all).Builds members (· = block) := by
    simp [codec, Codec.record, Codec.recordWith, Except.mapError_eq_ok_iff, Fields.Builds]
  rw [hbuilds, Fields.builds_seq, Fields.builds_map, builds_list_iff]
  simp only [builds_list_iff]
  constructor
  · rintro ⟨any, hany, all, hall, rfl⟩
    exact ⟨hany, hall⟩
  · rintro ⟨hany, hall⟩
    exact ⟨block.any, hany, block.all, hall, rfl⟩

theorem listsUnder_filter (hkey : key ∈ listKeys) :
    ListsUnder key (members.filter fun member => listKeys.contains member.1) conditions ↔
      ListsUnder key members conditions := by
  rw [ListsUnder, KeyMap.lookup_filter, if_pos (List.contains_iff_mem.mpr hkey), ListsUnder]

/-- A raw value types just when the grammar has it once its other members are left out. -/
theorem spelledBy_iff_writtenAs : SpelledBy raw block ↔ WrittenAs (withoutOthers raw) block := by
  cases raw with
  | null =>
      constructor
      · intro h
        obtain rfl := Except.ok.inj h
        exact .null
      · rintro ⟨⟩
        rfl
  | arr items =>
      rw [SpelledBy, ofRaw, Except.map_eq_ok_iff]
      simp only [Except.mapError_eq_ok_iff, decode_list_iff]
      constructor
      · rintro ⟨any, hany, rfl⟩
        exact .list hany
      · rintro ⟨⟩
        exact ⟨_, ‹_›, rfl⟩
  | obj members =>
      rw [SpelledBy, ofRaw, Except.mapError_eq_ok_iff, decode_obj_iff, withoutOthers]
      constructor
      · rintro ⟨hany, hall⟩
        exact .object (by simp) ((listsUnder_filter (by decide)).mpr hany)
          ((listsUnder_filter (by decide)).mpr hall)
      · rintro (_ | _ | ⟨-, hany, hall⟩)
        exact ⟨(listsUnder_filter (by decide)).mp hany, (listsUnder_filter (by decide)).mp hall⟩
  | _ =>
      refine iff_of_false (fun h => ?_) fun h => ?_ <;> cases h

/-- A block is rendered as an object with no other members. -/
theorem withoutOthers_toRaw (block : ConditionBlock) : withoutOthers block.toRaw = block.toRaw := by
  obtain ⟨any, all⟩ := block
  cases any <;> cases all <;> rfl

/-- A raw value is typed just when the grammar has it once its other members are left out, which
are none of those the grammar has; anything else is malformed at its path.  Of what is typed each
condition is kept, and the rendering of the block is in the grammar and typed as the block again. -/
theorem parsing_conditions (path : FieldPath) (raw : Json) :
    (∀ block, ofField path (some raw) = .ok (some block) ↔ WrittenAs (withoutOthers raw) block) ∧
    ((∃ fault, ofField path (some raw) = .error ⟨path, fault⟩) ↔
      ∀ block, ¬ WrittenAs (withoutOthers raw) block) ∧
    (∀ block, WrittenAs raw block ↔
      withoutOthers raw = raw ∧ ofField path (some raw) = .ok (some block)) ∧
    ∀ block, ofField path (some raw) = .ok (some block) →
      WrittenAs block.toRaw block ∧ ofField path (some block.toRaw) = .ok (some block) := by
  have hok (raw : Json) (block : ConditionBlock) :
      ofField path (some raw) = .ok (some block) ↔ WrittenAs (withoutOthers raw) block := by
    rw [ofField_eq_ok_iff, Option.rel_some_some, spelledBy_iff_writtenAs]
  refine ⟨hok raw, ?_, fun block => ?_, fun block hblock => ?_⟩
  · cases hraw : ofRaw raw with
    | ok block =>
        have hwritten : WrittenAs (withoutOthers raw) block := spelledBy_iff_writtenAs.mp hraw
        refine iff_of_false ?_ fun hnone => hnone block hwritten
        simp [ofField, hraw, Except.map, Except.mapError]
    | error fault =>
        refine iff_of_true ⟨fault, by simp [ofField, hraw, Except.map, Except.mapError]⟩ ?_
        intro block hwritten
        simp [← spelledBy_iff_writtenAs, SpelledBy, hraw] at hwritten
  · rw [hok]
    constructor
    · intro hwritten
      rw [hwritten.withoutOthers_eq]
      exact ⟨rfl, hwritten⟩
    · rintro ⟨heq, hwritten⟩
      rwa [heq] at hwritten
  · have hagain : WrittenAs (withoutOthers block.toRaw) block :=
      spelledBy_iff_writtenAs.mp (spelledBy_iff_writtenAs.mpr ((hok raw block).mp hblock)).toRaw
    refine ⟨?_, (hok _ _).mpr hagain⟩
    rwa [withoutOthers_toRaw] at hagain

/-- An object whose only key begins with a capital letter is typed as the empty block. -/
theorem misspelled_conditions_typed :
    let raw : Json := .obj [("Any", .arr [.obj [("key", .str "a"), ("operator", .str "Equals"),
      ("value", .str "b")]])]
    let path := (FieldPath.rules.index 0).child "preconditions"
    ofField path (some raw) = .ok (some {}) ∧ ∀ block, ¬ WrittenAs raw block := by
  intro raw path
  refine ⟨by decide +kernel, fun block hwritten => ?_⟩
  have hkeys := withoutOthers_eq_self_iff.mp hwritten.withoutOthers_eq _ rfl _
    (List.mem_singleton_self _)
  exact absurd hkeys (by decide)

end HubSpoke.ConditionBlock
