/-!
# Versions

Policies are served in two versions of one group: the hub, in which they are stored, and the spoke.
-/

namespace HubSpoke

/-- A version of the policy schema. -/
inductive ApiVersion where
  /-- The hub, in which policies are stored. -/
  | v1
  /-- The spoke. -/
  | v2
deriving DecidableEq, Repr

namespace ApiVersion

/-- The group of both versions. -/
def group : String := "kyverno.io"

/-- Both versions, in order. -/
def all : List ApiVersion := [.v1, .v2]

/-- The bare name of a version. -/
def short : ApiVersion → String
  | .v1 => "v1"
  | .v2 => "v2"

def name (version : ApiVersion) : String :=
  group ++ "/" ++ version.short

/-- The version with a bare name. -/
def ofShort? (text : String) : Option ApiVersion :=
  all.find? fun version => version.short = text

/-- The version with a name, given with its group. -/
def ofName? (text : String) : Option ApiVersion :=
  all.find? fun version => version.name = text

/-- The version policies are stored in. -/
def isHub : ApiVersion → Bool
  | .v1 => true
  | .v2 => false

end ApiVersion

end HubSpoke
