import HubSpoke.FieldPath
import HubSpoke.Policy.Condition

/-!
# Raw and typed conditions

The hub keeps conditions as they were written: an object with `any` and `all`, or a bare list,
which stands for `any`.  The spoke holds them typed.  Typing may fail; rendering gives the object.
-/

namespace HubSpoke

/-- Why a raw value is no condition block. -/
inductive ConditionFault where
  /-- It is neither an object nor a list nor null. -/
  | notABlock
  | mismatch (cause : Mismatch)
deriving DecidableEq, Repr

def ConditionFault.message : ConditionFault → String
  | .notABlock => "expected an any/all object or a list of conditions"
  | .mismatch cause => cause.message

/-- A raw value that is no condition block, and where it stands. -/
structure MalformedConditions where
  path : FieldPath
  fault : ConditionFault
deriving DecidableEq, Repr

def MalformedConditions.message (e : MalformedConditions) : String :=
  "malformed conditions at " ++ e.path.text ++ ": " ++ e.fault.message

namespace ConditionBlock

/-- The block a raw value spells.  Null spells the empty block. -/
def ofRaw : Json → Except ConditionFault ConditionBlock
  | .null => .ok {}
  | .obj members => (codec.decode (.obj members)).mapError .mismatch
  | .arr items =>
      ((Codec.list Condition.codec).decode (.arr items)).mapError .mismatch
        |>.map fun any => { any }
  | .bool _ | .int _ | .float _ | .str _ => .error .notABlock

/-- The block of a field that may be absent. -/
def ofField (path : FieldPath) :
    Option Json → Except MalformedConditions (Option ConditionBlock)
  | none => .ok none
  | some raw => ((ofRaw raw).map some).mapError fun fault => ⟨path, fault⟩

/-- The object that spells a block. -/
def toRaw (block : ConditionBlock) : Json :=
  codec.encode block

end ConditionBlock

end HubSpoke
