import HubSpoke.Policy.Selector

/-!
# Resource references
-/

namespace HubSpoke

structure ResourceReference where
  apiVersion : String := ""
  kind : String := ""
  namespaceName : String := ""
  name : String := ""
  uid : String := ""
deriving DecidableEq

/-- The fields of a reference, which are always spread among those of a larger record. -/
def ResourceReference.fields : Fields ResourceReference ResourceReference :=
  ResourceReference.mk
    <$> .text "apiVersion" ResourceReference.apiVersion
    <*> .text "kind" ResourceReference.kind
    <*> .text "namespace" ResourceReference.namespaceName
    <*> .text "name" ResourceReference.name
    <*> .text "uid" ResourceReference.uid

/-- The resource that a generated one is cloned from. -/
structure CloneSource where
  namespaceName : String := ""
  name : String := ""
deriving DecidableEq

def CloneSource.codec : Codec CloneSource :=
  .record "CloneFrom" <|
    CloneSource.mk
      <$> .text "namespace" CloneSource.namespaceName
      <*> .text "name" CloneSource.name

/-- The resources that several generated ones are cloned from. -/
structure CloneList where
  namespaceName : String := ""
  kinds : List String := []
  selector : Option LabelSelector := none
deriving DecidableEq

def CloneList.codec : Codec CloneList :=
  .record "CloneList" <|
    CloneList.mk
      <$> .text "namespace" CloneList.namespaceName
      <*> .list "kinds" .text CloneList.kinds
      <*> .optional "selector" LabelSelector.codec CloneList.selector

end HubSpoke
