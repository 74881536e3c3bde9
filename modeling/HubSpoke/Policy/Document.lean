import HubSpoke.Hub.Policy
import HubSpoke.Policy.Version
import HubSpoke.Spoke.Policy

/-!
# Policy documents

A document names its version, and its version decides how it is read.  A version that is not known
is an error; so is a document that does not fit its version.
-/

namespace HubSpoke

/-- A policy of either version. -/
inductive AnyPolicy where
  | hub (policy : Hub.Policy)
  | spoke (policy : Spoke.Policy)
deriving DecidableEq

/-- Why a document is no policy. -/
inductive SchemaError where
  | missingVersion
  | unsupportedVersion (given : String)
  | malformed (version : ApiVersion) (cause : Mismatch)
deriving DecidableEq

/-- The wording of an unsupported version. -/
def unsupportedVersionMessage (given : String) : String :=
  "unsupported apiVersion: " ++ given

def SchemaError.message : SchemaError → String
  | .missingVersion => "missing apiVersion"
  | .unsupportedVersion given => unsupportedVersionMessage given
  | .malformed version cause => "malformed " ++ version.name ++ " object: " ++ cause.message

namespace AnyPolicy

instance : Unsigned AnyPolicy := ⟨fun
  | .hub policy => .hub (unsigned policy)
  | .spoke policy => .spoke (unsigned policy)⟩

/-- The version of a policy. -/
def version : AnyPolicy → ApiVersion
  | .hub _ => .v1
  | .spoke _ => .v2

/-- The kind of a policy. -/
def kind : AnyPolicy → PolicyKind
  | .hub policy => policy.kind
  | .spoke policy => policy.kind

/-- The metadata of a policy. -/
def metadata : AnyPolicy → Metadata
  | .hub policy => policy.metadata
  | .spoke policy => policy.metadata

/-- The policy a document holds. -/
def ofJson (document : Json) : Except SchemaError AnyPolicy := do
  let some given := (document.member? "apiVersion").bind Json.str?
    | .error .missingVersion
  let some version := ApiVersion.ofName? given
    | .error (.unsupportedVersion given)
  match version with
  | .v1 => ((Hub.Policy.codec.decode document).map hub).mapError (.malformed .v1)
  | .v2 => ((Spoke.Policy.codec.decode document).map spoke).mapError (.malformed .v2)

/-- The members that render a policy, without its version. -/
def members : AnyPolicy → List (String × Json)
  | .hub policy => Hub.Policy.fields.members policy
  | .spoke policy => Spoke.Policy.fields.members policy

/-- The document of a policy. -/
def toJson (policy : AnyPolicy) : Json :=
  Json.ofMembers (policy.members ++ [("apiVersion", .str policy.version.name)])

end AnyPolicy

end HubSpoke
