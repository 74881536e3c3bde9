import HubSpoke.Json.SameData
import HubSpoke.Record.Fields

/-!
# Conditions
-/

namespace HubSpoke

/-- A single condition.  Its operands are expressions the policy language is to evaluate. -/
structure Condition where
  key : Json := .null
  operator : String := ""
  value : Option Json := none
  message : String := ""
deriving DecidableEq

namespace Condition

instance : Unsigned Condition :=
  ⟨fun c => { c with key := unsigned c.key, value := unsigned c.value }⟩

def codec : Codec Condition :=
  .record "Condition" <|
    Condition.mk
      <$> .shown "key" .json .null Condition.key
      <*> .shown "operator" .text "" Condition.operator
      <*> .optional "value" .json Condition.value
      <*> .text "message" Condition.message

end Condition

/-- Conditions of which one must hold, and conditions all of which must hold. -/
structure ConditionBlock where
  any : List Condition := []
  all : List Condition := []
deriving DecidableEq

namespace ConditionBlock

instance : Unsigned ConditionBlock :=
  ⟨fun block => { any := unsigned block.any, all := unsigned block.all }⟩

def codec : Codec ConditionBlock :=
  .record "AnyAllConditions" <|
    ConditionBlock.mk
      <$> .list "any" Condition.codec ConditionBlock.any
      <*> .list "all" Condition.codec ConditionBlock.all

end ConditionBlock

end HubSpoke
