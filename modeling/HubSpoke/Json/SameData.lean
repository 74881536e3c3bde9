import HubSpoke.Json.Basic

/-!
# The same data

Types that hold JSON values compare by the data they hold: floating-point zeros are equal whatever
their sign, and all else must be identical.  `Unsigned` drops the signs of the zeros a value holds,
and `sameData` compares what is left, so it is an equivalence by construction.
-/

namespace HubSpoke

/-- Types whose values can be stripped of the signs of floating-point zeros. -/
class Unsigned (α : Type) where
  unsigned : α → α

export Unsigned (unsigned)

instance : Unsigned Json := ⟨Json.unsigned⟩

instance {α : Type} [Unsigned α] : Unsigned (List α) := ⟨List.map unsigned⟩

instance {α : Type} [Unsigned α] : Unsigned (Option α) := ⟨Option.map unsigned⟩

instance {α : Type} [Unsigned α] : Unsigned (KeyMap α) := ⟨KeyMap.mapValues unsigned⟩

/-- The two values hold the same data. -/
def sameData {α : Type} [Unsigned α] [DecidableEq α] (a b : α) : Bool :=
  decide (unsigned a = unsigned b)

end HubSpoke
