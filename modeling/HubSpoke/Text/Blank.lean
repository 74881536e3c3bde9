/-!
# Blank characters

The white space of Unicode, which names, paths and versions are trimmed of.
-/

namespace HubSpoke.Text

/-- The character is white space. -/
def isBlankChar (c : Char) : Bool :=
  let n := c.toNat
  (0x9 ≤ n ∧ n ≤ 0xD) ∨ n = 0x20 ∨ n = 0x85 ∨ n = 0xA0 ∨ n = 0x1680 ∨
    (0x2000 ≤ n ∧ n ≤ 0x200A) ∨ n = 0x2028 ∨ n = 0x2029 ∨ n = 0x202F ∨ n = 0x205F ∨ n = 0x3000

/-- The text holds nothing but white space. -/
def isBlank (text : String) : Bool :=
  text.toList.all isBlankChar

/-- The text without white space at its end. -/
def trimEnd (text : String) : String :=
  String.ofList (text.toList.reverse.dropWhile isBlankChar).reverse

/-- The text without white space at its ends. -/
def trim (text : String) : String :=
  trimEnd (String.ofList (text.toList.dropWhile isBlankChar))

end HubSpoke.Text
