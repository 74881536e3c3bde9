import HubSpoke.Record.Codec

/-!
# Records

A record type is described once, by its fields in their order: how each is read, what stands for
it when it is absent, and when it is left out of the rendering.  `Codec.record` turns the
description into a codec.

A record is read from an object or, when none of its parts is spread among the members of the
object that holds it, from an array of its fields.  Every field is read on its own, so several may
be at fault; which fault is told depends on the form:

* in an object, the fault under the least key, faults of spread parts after the others and absent
  fields last;
* in an array, the fault of the earliest field, and superfluous items last.
-/

namespace HubSpoke

/-- What is wrong with one field. -/
inductive Fault where
  /-- The field does not decode.  The rank is the number of parts it is spread through. -/
  | malformed (rank : Nat) (field : String) (cause : Mismatch)
  /-- The field is absent and has no default. -/
  | absent (field : String)

/-- The fields of `σ` out of which an `α` is built. -/
structure Fields (σ α : Type) where
  /-- The names of the fields, in order. -/
  names : List String
  /-- Some part is spread among the members, so that an array cannot spell the record. -/
  objectOnly : Bool
  /-- Builds the value from the members present, or tells the faults in the order of the fields. -/
  build : List (String × Json) → Except (List Fault) α
  /-- The members that render a record. -/
  members : σ → List (String × Json)

namespace Fields

variable {σ τ α β : Type}

/-- A value built from no field. -/
protected def pure (value : α) : Fields σ α :=
  ⟨[], false, fun _ => .ok value, fun _ => []⟩

/-- Two groups of fields side by side. -/
protected def seq (first : Fields σ (α → β)) (second : Fields σ α) : Fields σ β where
  names := first.names ++ second.names
  objectOnly := first.objectOnly || second.objectOnly
  build given := match first.build given, second.build given with
    | .ok f, .ok value => .ok (f value)
    | .ok _, .error faults => .error faults
    | .error faults, .ok _ => .error faults
    | .error faults, .error more => .error (faults ++ more)
  members s := first.members s ++ second.members s

instance : Applicative (Fields σ) where
  pure := Fields.pure
  seq first second := first.seq (second ())

/-! ## Single fields -/

/-- A field under a name.  An absent field is `absent`, if that is given; a value for which
`render` gives nothing is left out. -/
def field (name : String) (decode : Json → Except Mismatch α) (absent : Option α)
    (render : α → Option Json) (get : σ → α) : Fields σ α where
  names := [name]
  objectOnly := false
  build given := match given.lookup name with
    | some value => (decode value).mapError fun cause => [.malformed 0 name cause]
    | none => match absent with
        | some value => .ok value
        | none => .error [.absent name]
  members s := match render (get s) with
    | some value => [(name, value)]
    | none => []

/-- A field that must be present. -/
def required (name : String) (codec : Codec α) (get : σ → α) : Fields σ α :=
  field name codec.decode none (some ∘ codec.encode) get

/-- A field that is always rendered and has a default. -/
def shown (name : String) (codec : Codec α) (absent : α) (get : σ → α) : Fields σ α :=
  field name codec.decode (some absent) (some ∘ codec.encode) get

/-- A field that is left out where it holds its default. -/
def hidden [DecidableEq α] (name : String) (codec : Codec α) (absent : α) (get : σ → α) :
    Fields σ α :=
  field name codec.decode (some absent)
    (fun value => if value = absent then none else some (codec.encode value)) get

/-- A text, left out where it is empty. -/
def text (name : String) (get : σ → String) : Fields σ String :=
  hidden name .text "" get

/-- A flag that is off by default. -/
def flag (name : String) (get : σ → Bool) : Fields σ Bool :=
  hidden name .flag false get

/-- A list, left out where it is empty. -/
def list (name : String) (codec : Codec α) (get : σ → List α) : Fields σ (List α) :=
  field name codec.list.decode (some [])
    (fun values => if values.isEmpty then none else some (codec.list.encode values)) get

/-- A map of texts, left out where it is empty. -/
def textMap (name : String) (get : σ → KeyMap String) : Fields σ (KeyMap String) :=
  field name (Codec.map .text).decode (some .empty)
    (fun values => if values.isEmpty then none else some ((Codec.map .text).encode values)) get

/-- A value that may be absent. -/
def optional (name : String) (codec : Codec α) (get : σ → Option α) : Fields σ (Option α) :=
  field name codec.optional.decode (some none) (Option.map codec.encode) get

/-! ## Spread parts -/

/-- The fields of a part, spread among the members of the record that holds it. -/
def spread (part : Fields τ α) (get : σ → τ) : Fields σ α where
  names := []
  objectOnly := true
  build given := (part.build given).mapError fun faults => faults.map fun
    | .malformed rank name cause => .malformed (rank + 1) name cause
    | .absent name => .absent name
  members s := part.members (get s)

/-- All members whose names are not declared. -/
def others (declared : List String) (get : σ → KeyMap Json) : Fields σ (KeyMap Json) where
  names := []
  objectOnly := true
  build given := .ok (KeyMap.ofList (given.filter fun member => !declared.contains member.1))
  members s := (get s).entries

end Fields

/-! ## Codecs of records -/

/-- The fault told of an object: the least key of the least rank, else the first absent field. -/
def Fault.ofObject (faults : List Fault) : Mismatch :=
  let worse : Option (Nat × String × Mismatch) → Fault → Option (Nat × String × Mismatch)
    | none, .malformed rank name cause => some (rank, name, cause)
    | some (rank, name, cause), .malformed rank' name' cause' =>
        if rank' < rank ∨ (rank' = rank ∧ name' < name) then some (rank', name', cause')
        else some (rank, name, cause)
    | held, .absent _ => held
  match faults.foldl worse none with
  | some (_, _, cause) => cause
  | none => .missingField ((faults.findSome? fun
      | .absent name => some name
      | .malformed .. => none).getD "")

/-- The fault told of an array: that of the earliest field. -/
def Fault.ofArray (typeName : String) (names : List String) : List Fault → Mismatch
  | .malformed _ _ cause :: _ => cause
  | .absent name :: _ => .wrongLength (names.idxOf name) (.recordOf typeName names.length)
  | [] => .wrongLength 0 (.recordOf typeName names.length)

namespace Codec

variable {σ : Type}

/-- The codec of a record, given what superfluous items of an array are told as. -/
def recordWith (superfluous : Nat → Nat → Mismatch) (typeName : String) (fields : Fields σ σ) :
    Codec σ where
  decode
    | .obj members => (fields.build members).mapError Fault.ofObject
    | .arr items =>
        if fields.objectOnly then .error (.wrongType .sequence (.record typeName))
        else match fields.build (fields.names.zip items) with
          | .error faults => .error (Fault.ofArray typeName fields.names faults)
          | .ok value =>
              if fields.names.length < items.length then
                .error (superfluous items.length fields.names.length)
              else .ok value
    | other => .error (.wrongType other.found (.record typeName))
  encode value := Json.ofMembers (fields.members value)

/-- The codec of a record. -/
def record (typeName : String) (fields : Fields σ σ) : Codec σ :=
  recordWith (fun given _ => .wrongLength given .fewerItems) typeName fields

/-- The codec of a record that occurs only inside spread parts. -/
def recordInSpread (typeName : String) (fields : Fields σ σ) : Codec σ :=
  recordWith (fun given declared => .wrongLength given (.items declared)) typeName fields

end Codec

end HubSpoke
