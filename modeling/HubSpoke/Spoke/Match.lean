import HubSpoke.Policy.Control
import HubSpoke.Policy.User

/-!
# Match and exclude blocks of the spoke

A spoke block is made of lists alone, and resources are named in lists alone.
-/

namespace HubSpoke.Spoke

/-- Which resources a filter selects. -/
structure ResourceDescription where
  kinds : List String := []
  names : List String := []
  namespaces : List String := []
  annotations : KeyMap String := .empty
  selector : Option LabelSelector := none
  namespaceSelector : Option LabelSelector := none
  operations : List AdmissionOperation := []
deriving DecidableEq

namespace ResourceDescription

/-- The description constrains nothing. -/
def isEmpty (d : ResourceDescription) : Bool := d = {}

def codec : Codec ResourceDescription :=
  .record "ResourceDescription" <|
    ResourceDescription.mk
      <$> .list "kinds" .text ResourceDescription.kinds
      <*> .list "names" .text ResourceDescription.names
      <*> .list "namespaces" .text ResourceDescription.namespaces
      <*> .textMap "annotations" ResourceDescription.annotations
      <*> .optional "selector" LabelSelector.codec ResourceDescription.selector
      <*> .optional "namespaceSelector" LabelSelector.codec ResourceDescription.namespaceSelector
      <*> .list "operations" AdmissionOperation.codec ResourceDescription.operations

end ResourceDescription

/-- A filter on the requesting user and the resource. -/
structure ResourceFilter where
  user : UserInfo := {}
  resources : ResourceDescription := {}
deriving DecidableEq

def ResourceFilter.codec : Codec ResourceFilter :=
  .record "ResourceFilter" <|
    ResourceFilter.mk
      <$> .spread UserInfo.fields ResourceFilter.user
      <*> .hidden "resources" ResourceDescription.codec {} ResourceFilter.resources

/-- A match or exclude block. -/
structure MatchBlock where
  any : List ResourceFilter := []
  all : List ResourceFilter := []
deriving DecidableEq

namespace MatchBlock

def codec : Codec MatchBlock :=
  .record "MatchResources" <|
    MatchBlock.mk
      <$> .list "any" ResourceFilter.codec MatchBlock.any
      <*> .list "all" ResourceFilter.codec MatchBlock.all

/-- Nothing is selected. -/
def isEmpty (block : MatchBlock) : Bool :=
  block.any.isEmpty && block.all.isEmpty

/-- The kind selectors of all filters, in order. -/
def kinds (block : MatchBlock) : List String :=
  (block.any ++ block.all).flatMap fun filter => filter.resources.kinds

end MatchBlock

end HubSpoke.Spoke
