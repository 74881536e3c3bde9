import HubSpoke.Json.SameData
import HubSpoke.Record.Fields

/-!
# Object metadata

The metadata of a policy object is the same in both versions.  Keys it has no field for are kept
with their values, null included.
-/

namespace HubSpoke

/-- Standard object metadata. -/
structure Metadata where
  name : String := ""
  namespaceName : Option String := none
  uid : Option String := none
  resourceVersion : Option String := none
  generation : Option Int64 := none
  labels : KeyMap String := .empty
  annotations : KeyMap String := .empty
  /-- All other keys. -/
  extra : KeyMap Json := .empty
deriving DecidableEq

namespace Metadata

instance : Unsigned Metadata := ⟨fun m => { m with extra := unsigned m.extra }⟩

/-- The keys that have a field of their own. -/
def declared : List String :=
  ["name", "namespace", "uid", "resourceVersion", "generation", "labels", "annotations"]

/-- The fields, in order. -/
def fields : Fields Metadata Metadata :=
  Metadata.mk
    <$> .text "name" Metadata.name
    <*> .optional "namespace" .text Metadata.namespaceName
    <*> .optional "uid" .text Metadata.uid
    <*> .optional "resourceVersion" .text Metadata.resourceVersion
    <*> .optional "generation" .int64 Metadata.generation
    <*> .textMap "labels" Metadata.labels
    <*> .textMap "annotations" Metadata.annotations
    <*> .others declared Metadata.extra

def codec : Codec Metadata := .record "ObjectMeta" fields

end Metadata

end HubSpoke
