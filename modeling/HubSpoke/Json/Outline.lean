import HubSpoke.Json.Numeral

/-!
# What a JSON text spells out

An outline is the tree a text spells as far as it goes: members in the order written, repeated
keys and all, numerals and strings not yet judged.  Where the text stops making sense the
containers still open are marked so, and `broken` stands for a value that was due.

`Outline.value?` is the strict reading: everything closed, every string well-formed, every number
finite, and no more than the given number of containers inside one another.  `Outline.isSkippable`
is the lax one, applied to members nobody asks for.
-/

namespace HubSpoke.Json

/-- The tree a text spells. -/
inductive Outline where
  | null
  | bool (value : Bool)
  | number (numeral : Numeral)
  /-- A string, or nothing when it holds half a surrogate pair or octets that spell no character. -/
  | text (value : Option String)
  | array (items : List Outline) (closed : Bool)
  | object (members : List (Option String × Outline)) (closed : Bool)
  /-- A value was due and something else came. -/
  | broken
deriving Inhabited

/-- The deepest nesting of containers in a document. -/
def maxDepth : Nat := 127

namespace Outline

variable [FloatReading]

mutual

/-- The value spelled, if the outline is complete and nests at most `levels` containers. -/
def value? (levels : Nat) : Outline → Option Json
  | .null => some .null
  | .bool value => some (.bool value)
  | .number numeral => numeral.value?
  | .text value => value.map .str
  | .array items closed =>
      if levels = 0 ∨ ¬closed then none else (items? (levels - 1) items).map .arr
  | .object members closed =>
      if levels = 0 ∨ ¬closed then none else (members? (levels - 1) members).map ofMembers
  | .broken => none

/-- The values spelled by a list of items. -/
def items? (levels : Nat) : List Outline → Option (List Json)
  | [] => some []
  | item :: rest => do
      let value ← item.value? levels
      let values ← items? levels rest
      return value :: values

/-- The members spelled by a list of members, in the order written. -/
def members? (levels : Nat) : List (Option String × Outline) → Option (List (String × Json))
  | [] => some []
  | (key, item) :: rest => do
      let key ← key
      let value ← item.value? levels
      let members ← members? levels rest
      return (key, value) :: members

end

mutual

/-- The outline is complete; strings, numbers and nesting are not judged. -/
def isSkippable : Outline → Bool
  | .null | .bool _ | .number _ | .text _ => true
  | .array items closed => closed && areSkippable items
  | .object members closed => closed && membersSkippable members
  | .broken => false

/-- Every item is complete. -/
def areSkippable : List Outline → Bool
  | [] => true
  | item :: rest => item.isSkippable && areSkippable rest

/-- Every member's value is complete. -/
def membersSkippable : List (Option String × Outline) → Bool
  | [] => true
  | (_, item) :: rest => item.isSkippable && membersSkippable rest

end

end Outline

end HubSpoke.Json
