/-!
# Segments of a text
-/

namespace HubSpoke.Text

/-- The pieces between separators; a text without one is a single piece. -/
def splitAt (separator : Char) : List Char → List (List Char)
  | [] => [[]]
  | c :: rest =>
      if c = separator then [] :: splitAt separator rest
      else match splitAt separator rest with
        | first :: more => (c :: first) :: more
        | [] => [[c]]

/-- The pieces of a text between separators. -/
def segments (separator : Char) (text : String) : List String :=
  (splitAt separator text.toList).map String.ofList

end HubSpoke.Text
