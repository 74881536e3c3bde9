import HubSpoke.Policy.Control
import HubSpoke.Policy.User

/-!
# Match and exclude blocks of the hub

Besides the lists `any` and `all`, a hub block may hold one inline filter, and a resource
description may give a single legacy name beside its names.
-/

namespace HubSpoke.Hub

/-- Which resources a filter selects. -/
structure ResourceDescription where
  kinds : List String := []
  /-- A single name, kept for older documents. -/
  name : String := ""
  names : List String := []
  namespaces : List String := []
  annotations : KeyMap String := .empty
  selector : Option LabelSelector := none
  namespaceSelector : Option LabelSelector := none
  operations : List AdmissionOperation := []
deriving DecidableEq

namespace ResourceDescription

/-- The description constrains nothing. -/
def isEmpty (d : ResourceDescription) : Bool := d = {}

def codec : Codec ResourceDescription :=
  .record "ResourceDescription" <|
    ResourceDescription.mk
      <$> .list "kinds" .text ResourceDescription.kinds
      <*> .text "name" ResourceDescription.name
      <*> .list "names" .text ResourceDescription.names
      <*> .list "namespaces" .text ResourceDescription.namespaces
      <*> .textMap "annotations" ResourceDescription.annotations
      <*> .optional "selector" LabelSelector.codec ResourceDescription.selector
      <*> .optional "namespaceSelector" LabelSelector.codec ResourceDescription.namespaceSelector
      <*> .list "operations" AdmissionOperation.codec ResourceDescription.operations

end ResourceDescription

/-- A filter on the requesting user and the resource. -/
structure ResourceFilter where
  user : UserInfo := {}
  resources : ResourceDescription := {}
deriving DecidableEq

def ResourceFilter.codec : Codec ResourceFilter :=
  .record "ResourceFilter" <|
    ResourceFilter.mk
      <$> .spread UserInfo.fields ResourceFilter.user
      <*> .hidden "resources" ResourceDescription.codec {} ResourceFilter.resources

/-- A match or exclude block. -/
structure MatchBlock where
  any : List ResourceFilter := []
  all : List ResourceFilter := []
  /-- The user of the inline filter. -/
  user : UserInfo := {}
  /-- The resources of the inline filter. -/
  resources : ResourceDescription := {}
deriving DecidableEq

namespace MatchBlock

def codec : Codec MatchBlock :=
  .record "MatchResources" <|
    MatchBlock.mk
      <$> .list "any" ResourceFilter.codec MatchBlock.any
      <*> .list "all" ResourceFilter.codec MatchBlock.all
      <*> .spread UserInfo.fields MatchBlock.user
      <*> .hidden "resources" ResourceDescription.codec {} MatchBlock.resources

/-- The inline filter carries anything. -/
def hasInline (block : MatchBlock) : Bool :=
  !block.user.isEmpty || !block.resources.isEmpty

/-- Nothing is selected. -/
def isEmpty (block : MatchBlock) : Bool :=
  block.any.isEmpty && block.all.isEmpty && !block.hasInline

end MatchBlock

end HubSpoke.Hub
