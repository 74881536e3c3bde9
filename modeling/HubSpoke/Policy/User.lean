import HubSpoke.Record.Fields

/-!
# Requesting users
-/

namespace HubSpoke

/-- A user, a group or a service account. -/
structure Subject where
  kind : String := ""
  apiGroup : String := ""
  name : String := ""
  namespaceName : String := ""
deriving DecidableEq

def Subject.codec : Codec Subject :=
  .recordInSpread "Subject" <|
    Subject.mk
      <$> .shown "kind" .text "" Subject.kind
      <*> .text "apiGroup" Subject.apiGroup
      <*> .shown "name" .text "" Subject.name
      <*> .text "namespace" Subject.namespaceName

/-- A filter on the requesting user. -/
structure UserInfo where
  roles : List String := []
  clusterRoles : List String := []
  subjects : List Subject := []
deriving DecidableEq

namespace UserInfo

/-- The filter names nobody. -/
def isEmpty (user : UserInfo) : Bool :=
  user.roles.isEmpty && user.clusterRoles.isEmpty && user.subjects.isEmpty

/-- The fields, which are always spread among those of a larger filter. -/
def fields : Fields UserInfo UserInfo :=
  UserInfo.mk
    <$> .list "roles" .text UserInfo.roles
    <*> .list "clusterRoles" .text UserInfo.clusterRoles
    <*> .list "subjects" Subject.codec UserInfo.subjects

end UserInfo

end HubSpoke
