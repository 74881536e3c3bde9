import HubSpoke.Text.Blank
import HubSpoke.Text.Segments

/-!
# Kinds and their scope

A kind selector has one to four segments: the kind, before it a group and a version, after it a
subresource.  A scope says which kinds live outside namespaces.
-/

namespace HubSpoke

/-- Which kinds are cluster-scoped. -/
structure ResourceScope where
  isClusterScoped : String → Bool

namespace ResourceScope

/-- The scope in which the given kinds are cluster-scoped. -/
def ofKinds (kinds : List String) : ResourceScope :=
  ⟨fun kind => kinds.contains kind⟩

/-- The kinds that are cluster-scoped everywhere. -/
def builtinKinds : List String := [
  "APIService", "CertificateSigningRequest", "ClusterPolicy", "ClusterRole", "ClusterRoleBinding",
  "CustomResourceDefinition", "IngressClass", "MutatingWebhookConfiguration", "Namespace", "Node",
  "PersistentVolume", "PriorityClass", "RuntimeClass", "StorageClass",
  "ValidatingAdmissionPolicy", "ValidatingAdmissionPolicyBinding",
  "ValidatingWebhookConfiguration", "VolumeAttachment"]

/-- The scope of those kinds. -/
def builtin : ResourceScope := ofKinds builtinKinds

end ResourceScope

namespace KindSelector

/-- A segment that can be a kind: it starts with a capital letter or a wildcard. -/
def isKindSegment (segment : String) : Bool :=
  match segment.toList with
  | first :: _ => ('A' ≤ first ∧ first ≤ 'Z') ∨ first = '*'
  | [] => false

/-- The kind a selector names: the first segment that can be one, else the whole selector. -/
def kind (selector : String) : String :=
  ((Text.segments '/' selector).find? isKindSegment).getD selector

/-- The selector has one to four segments, none of them blank. -/
def isWellFormed (selector : String) : Bool :=
  let segments := Text.segments '/' selector
  segments.length ≤ 4 && segments.all fun segment => !Text.isBlank segment

end KindSelector

end HubSpoke
