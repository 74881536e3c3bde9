import HubSpoke.Record.Fields

/-!
# Label selectors
-/

namespace HubSpoke

/-- A set-based requirement on a label. -/
structure LabelRequirement where
  key : String := ""
  /-- One of `In`, `NotIn`, `Exists` and `DoesNotExist` in a valid policy. -/
  operator : String := ""
  values : List String := []
deriving DecidableEq

def LabelRequirement.codec : Codec LabelRequirement :=
  .record "LabelSelectorRequirement" <|
    LabelRequirement.mk
      <$> .shown "key" .text "" LabelRequirement.key
      <*> .shown "operator" .text "" LabelRequirement.operator
      <*> .list "values" .text LabelRequirement.values

/-- A selector of labels: exact matches and set-based requirements. -/
structure LabelSelector where
  matchLabels : KeyMap String := .empty
  matchExpressions : List LabelRequirement := []
deriving DecidableEq

def LabelSelector.codec : Codec LabelSelector :=
  .record "LabelSelector" <|
    LabelSelector.mk
      <$> .textMap "matchLabels" LabelSelector.matchLabels
      <*> .list "matchExpressions" LabelRequirement.codec LabelSelector.matchExpressions

end HubSpoke
