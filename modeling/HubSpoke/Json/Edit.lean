import HubSpoke.FieldPath
import HubSpoke.Json.Basic

/-!
# Editing documents

Changes to the value at a path.  A change answers nothing when the path does not lead to a place
where it can be made.
-/

namespace HubSpoke.Json

/-- The document with the value at the end of some steps changed. -/
def modify? (change : Json → Option Json) : List FieldStep → Json → Option Json
  | [], value => change value
  | .field name :: rest, .obj members => do
      let value ← members.lookup name
      let changed ← modify? change rest value
      return .obj (KeyMap.put name changed members)
  | .index position :: rest, .arr items => do
      let value ← items[position]?
      let changed ← modify? change rest value
      return .arr (items.set position changed)
  | _, _ => none

/-- The document changed at the last step of a path. -/
def modifyLast? (document : Json) (path : FieldPath) (change : FieldStep → Json → Option Json) :
    Option Json := do
  let last ← path.steps.getLast?
  modify? (change last) path.steps.dropLast document

/-- Puts a value under a key, or in place of a list item. -/
def set? (document : Json) (path : FieldPath) (value : Json) : Option Json :=
  document.modifyLast? path fun
    | .field name, .obj members => some (.obj (KeyMap.put name value members))
    | .index position, .arr items =>
        if position < items.length then some (.arr (items.set position value)) else none
    | _, _ => none

/-- Puts a value in front of a list item, or at the end of a list. -/
def insert? (document : Json) (path : FieldPath) (value : Json) : Option Json :=
  document.modifyLast? path fun
    | .index position, .arr items =>
        if position ≤ items.length then
          some (.arr (items.take position ++ value :: items.drop position))
        else none
    | _, _ => none

/-- Removes a member or a list item. -/
def remove? (document : Json) (path : FieldPath) : Option Json :=
  document.modifyLast? path fun
    | .field name, .obj members =>
        if (members.lookup name).isSome then
          some (.obj (members.filter fun member => member.1 != name))
        else none
    | .index position, .arr items =>
        if position < items.length then some (.arr (items.eraseIdx position)) else none
    | _, _ => none

/-- Reverses a list. -/
def reverse? (document : Json) (path : FieldPath) : Option Json :=
  modify? (fun
    | .arr items => some (.arr items.reverse)
    | _ => none) path.steps document

end HubSpoke.Json
