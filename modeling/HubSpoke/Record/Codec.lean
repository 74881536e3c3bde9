import HubSpoke.Record.Mismatch

/-!
# Codecs

A codec reads a type from JSON and renders it as JSON.  Reading may accept more spellings than
rendering writes; what rendering writes is read back.

This module has the codecs of simple values and of collections.  Codecs of records are put
together from fields in `HubSpoke.Record.Fields`.
-/

namespace HubSpoke

/-- A type read from and rendered as JSON. -/
structure Codec (α : Type) where
  decode : Json → Except Mismatch α
  encode : α → Json

namespace Codec

variable {α : Type}

/-- A value kept as it is. -/
def json : Codec Json := ⟨.ok, id⟩

def text : Codec String where
  decode
    | .str value => .ok value
    | other => .error (.wrongType other.found .text)
  encode := .str

def flag : Codec Bool where
  decode
    | .bool value => .ok value
    | other => .error (.wrongType other.found .flag)
  encode := .bool

/-- A whole number between two bounds, read through a narrower type. -/
def whole (least greatest : Int) (expected : Expected) (narrow : Int → α) (widen : α → Int) :
    Codec α where
  decode
    | .int n =>
        if least ≤ n ∧ n ≤ greatest then .ok (narrow n)
        else .error (.wrongValue (.whole n) expected)
    | other => .error (.wrongType other.found expected)
  encode value := .int (widen value)

/-- A signed 32-bit number. -/
def int32 : Codec Int32 :=
  whole (-2147483648) 2147483647 .int32 Int32.ofInt Int32.toInt

/-- A signed 64-bit number. -/
def int64 : Codec Int64 :=
  whole (-9223372036854775808) 9223372036854775807 .int64 Int64.ofInt Int64.toInt

/-- An unsigned 64-bit number. -/
def size : Codec UInt64 :=
  whole 0 18446744073709551615 .size (fun n => UInt64.ofNat n.toNat) (fun n => (n.toNat : Int))

/-- A value that null leaves out. -/
def optional (inner : Codec α) : Codec (Option α) where
  decode
    | .null => .ok none
    | other => (inner.decode other).map some
  encode
    | none => .null
    | some value => inner.encode value

/-- A list; the first item that does not decode is told. -/
def list (inner : Codec α) : Codec (List α) where
  decode
    | .arr items => items.mapM inner.decode
    | other => .error (.wrongType other.found .sequence)
  encode values := .arr (values.map inner.encode)

/-- A map from texts; the first entry that does not decode is told. -/
def map (inner : Codec α) : Codec (KeyMap α) where
  decode
    | .obj members =>
        (members.mapM fun member =>
          (inner.decode member.2).map fun value => (member.1, value)).map KeyMap.ofList
    | other => .error (.wrongType other.found .map)
  encode values := .obj (values.mapValues inner.encode).entries

/-- One of a set of names; several names may stand for one value.  A name may also be written as
the only key of an object that holds null. -/
def choice (known : List (String × α)) (name : α → String) : Codec α where
  decode
    | .str variant => find variant
    | .obj [(variant, content)] => do
        let value ← find variant
        if content = .null then .ok value else .error (.wrongType content.found .unit)
    | .obj _ => .error (.wrongValue .map .singleKey)
    | other => .error (.wrongType other.found .choice)
  encode value := .str (name value)
where
  find (variant : String) : Except Mismatch α :=
    match known.lookup variant with
    | some value => .ok value
    | none => .error (.unknownVariant variant (known.map Prod.fst))

end Codec

end HubSpoke
