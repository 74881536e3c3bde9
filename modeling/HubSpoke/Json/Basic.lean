import HubSpoke.Decimal.Binary64
import HubSpoke.KeyMap

/-!
# JSON values

A document is a tree whose numbers are either whole or binary64; `1` and `1.0` are different
values.  Members are kept as a list, and `ofMembers` builds the regular form in which every
document is read: keys in ascending order, the last of several equal keys kept.

Two documents that differ only in the sign of floating-point zeros hold the same data.  `unsigned`
drops those signs, so "same data" is equality of images.
-/

namespace HubSpoke

/-- A JSON value. -/
inductive Json where
  | null
  | bool (value : Bool)
  | int (value : Int)
  | float (value : Binary64)
  | str (value : String)
  | arr (items : List Json)
  | obj (members : List (String × Json))
deriving Repr, Inhabited

namespace Json

/-! ## Equality is decidable -/

mutual

/-- Decides equality of two values. -/
def decEq : (a b : Json) → Decidable (a = b)
  | .null, b => match b with
      | .null => isTrue rfl
      | .bool _ | .int _ | .float _ | .str _ | .arr _ | .obj _ => isFalse nofun
  | .bool x, b => match b with
      | .bool y => decidable_of_iff (x = y) (by simp)
      | .null | .int _ | .float _ | .str _ | .arr _ | .obj _ => isFalse nofun
  | .int x, b => match b with
      | .int y => decidable_of_iff (x = y) (by simp)
      | .null | .bool _ | .float _ | .str _ | .arr _ | .obj _ => isFalse nofun
  | .float x, b => match b with
      | .float y => decidable_of_iff (x = y) (by simp)
      | .null | .bool _ | .int _ | .str _ | .arr _ | .obj _ => isFalse nofun
  | .str x, b => match b with
      | .str y => decidable_of_iff (x = y) (by simp)
      | .null | .bool _ | .int _ | .float _ | .arr _ | .obj _ => isFalse nofun
  | .arr xs, b => match b with
      | .arr ys => @decidable_of_iff _ (xs = ys) (by simp) (decEqItems xs ys)
      | .null | .bool _ | .int _ | .float _ | .str _ | .obj _ => isFalse nofun
  | .obj xs, b => match b with
      | .obj ys => @decidable_of_iff _ (xs = ys) (by simp) (decEqMembers xs ys)
      | .null | .bool _ | .int _ | .float _ | .str _ | .arr _ => isFalse nofun

/-- Decides equality of two item lists. -/
def decEqItems : (xs ys : List Json) → Decidable (xs = ys)
  | [], [] => isTrue rfl
  | [], _ :: _ => isFalse nofun
  | _ :: _, [] => isFalse nofun
  | x :: xs, y :: ys => match decEq x y, decEqItems xs ys with
      | isTrue h, isTrue hs => isTrue (by rw [h, hs])
      | isFalse h, _ => isFalse (by simp [h])
      | _, isFalse hs => isFalse (by simp [hs])

/-- Decides equality of two member lists. -/
def decEqMembers : (xs ys : List (String × Json)) → Decidable (xs = ys)
  | [], [] => isTrue rfl
  | [], _ :: _ => isFalse nofun
  | _ :: _, [] => isFalse nofun
  | (j, x) :: xs, (k, y) :: ys =>
      if hkey : j = k then match decEq x y, decEqMembers xs ys with
        | isTrue h, isTrue hs => isTrue (by rw [hkey, h, hs])
        | isFalse h, _ => isFalse (by simp [h])
        | _, isFalse hs => isFalse (by simp [hs])
      else isFalse (by simp [hkey])

end

instance : DecidableEq Json := decEq

/-! ## Members -/

/-- The object with the given members, in regular form. -/
def ofMembers (members : List (String × Json)) : Json :=
  .obj (KeyMap.sort members)

/-- The value under a key of an object. -/
def member? (key : String) : Json → Option Json
  | .obj members => members.lookup key
  | _ => none

/-- The text of a string value. -/
def str? : Json → Option String
  | .str text => some text
  | _ => none

/-- A text, or null where there is none. -/
def textOrNull : Option String → Json
  | some text => .str text
  | none => .null

/-! ## Zeros without a sign -/

mutual

/-- The value with the sign of every floating-point zero dropped. -/
def unsigned : Json → Json
  | .float x => .float x.unsigned
  | .arr items => .arr (unsignedItems items)
  | .obj members => .obj (unsignedMembers members)
  | .null => .null
  | .bool value => .bool value
  | .int value => .int value
  | .str text => .str text

/-- `unsigned` on each item. -/
def unsignedItems : List Json → List Json
  | [] => []
  | item :: rest => item.unsigned :: unsignedItems rest

/-- `unsigned` on each member's value. -/
def unsignedMembers : List (String × Json) → List (String × Json)
  | [] => []
  | (key, value) :: rest => (key, value.unsigned) :: unsignedMembers rest

end

end Json

end HubSpoke
