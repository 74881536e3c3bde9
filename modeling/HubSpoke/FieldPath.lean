/-!
# Field paths

Where in a document something stands, as it is named in messages: `spec.rules[0].match`.
-/

namespace HubSpoke

/-- One step into a document. -/
inductive FieldStep where
  | field (name : String)
  | index (position : Nat)
deriving DecidableEq, Repr

/-- The steps from the root of a document. -/
structure FieldPath where
  steps : List FieldStep := []
deriving DecidableEq, Repr

namespace FieldPath

/-- A path into a field of the root. -/
def root (name : String) : FieldPath := ⟨[.field name]⟩

/-- The path of a field. -/
def child (path : FieldPath) (name : String) : FieldPath :=
  ⟨path.steps ++ [.field name]⟩

/-- The path of a list item. -/
def index (path : FieldPath) (position : Nat) : FieldPath :=
  ⟨path.steps ++ [.index position]⟩

/-- A step that is not the first. -/
def stepText : FieldStep → String
  | .field name => "." ++ name
  | .index position => "[" ++ toString position ++ "]"

/-- The written form of a path.  A field has a point before it unless it comes first. -/
def text (path : FieldPath) : String :=
  match path.steps with
  | .field name :: rest => name ++ String.join (rest.map stepText)
  | steps => String.join (steps.map stepText)

/-- The path of the rules of a policy. -/
def rules : FieldPath := (root "spec").child "rules"

end FieldPath

end HubSpoke
