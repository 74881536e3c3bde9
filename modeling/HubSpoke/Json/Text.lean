import HubSpoke.Decimal.Text
import HubSpoke.Json.Basic

/-!
# Writing JSON text

Three written forms: the compact one without blanks, the indented one with two blanks a level, and
the canonical one, whose objects are ordered by their written keys and whose numbers follow the
canonical float format.  Each writer puts its text in front of the text that follows, so the text
of a list is written in one pass.  Members are written in the order they are held; only the
canonical form orders them.
-/

namespace HubSpoke.Json

/-! ## Strings and numbers -/

/-- A hexadecimal digit in lower case. -/
def hexDigitChar (d : Nat) : Char :=
  if d < 10 then Char.ofNat ('0'.toNat + d) else Char.ofNat ('a'.toNat + (d - 10))

/-- The written form of a character inside a string. -/
def escapeChar (c : Char) : List Char :=
  if c = '"' then ['\\', '"']
  else if c = '\\' then ['\\', '\\']
  else if c = '\x08' then ['\\', 'b']
  else if c = '\x0c' then ['\\', 'f']
  else if c = '\n' then ['\\', 'n']
  else if c = '\r' then ['\\', 'r']
  else if c = '\t' then ['\\', 't']
  else if c.toNat < 0x20 then
    ['\\', 'u', '0', '0', hexDigitChar (c.toNat / 16), hexDigitChar (c.toNat % 16)]
  else [c]

/-- The written form of a string. -/
def quoted (text : String) : List Char :=
  '"' :: (text.toList.flatMap escapeChar ++ ['"'])

/-- The written form of a whole number. -/
def wholeChars (n : Int) : List Char :=
  if n < 0 then '-' :: Nat.toDigits 10 n.natAbs else Nat.toDigits 10 n.natAbs

/-- The written form of a value that holds no other. -/
def scalarChars (format : FloatFormat) : Json → List Char
  | .null => "null".toList
  | .bool true => "true".toList
  | .bool false => "false".toList
  | .int n => wholeChars n
  | .float x => format.write x
  | .str text => quoted text
  | .arr _ => "[]".toList
  | .obj _ => "\x7b\x7d".toList

/-! ## The compact form -/

mutual

/-- The compact text of a value, followed by `rest`. -/
def writeCompact (rest : List Char) : Json → List Char
  | .arr [] => '[' :: ']' :: rest
  | .arr (item :: items) => '[' :: writeCompact (compactItems rest items) item
  | .obj [] => '{' :: '}' :: rest
  | .obj ((key, value) :: members) =>
      '{' :: (quoted key ++ ':' :: writeCompact (compactMembers rest members) value)
  | .null => scalarChars .ordinary .null ++ rest
  | .bool value => scalarChars .ordinary (.bool value) ++ rest
  | .int n => scalarChars .ordinary (.int n) ++ rest
  | .float x => scalarChars .ordinary (.float x) ++ rest
  | .str text => scalarChars .ordinary (.str text) ++ rest

/-- The items after the first, the closing bracket and `rest`. -/
def compactItems (rest : List Char) : List Json → List Char
  | [] => ']' :: rest
  | item :: items => ',' :: writeCompact (compactItems rest items) item

/-- The members after the first, the closing brace and `rest`. -/
def compactMembers (rest : List Char) : List (String × Json) → List Char
  | [] => '}' :: rest
  | (key, value) :: members =>
      ',' :: (quoted key ++ ':' :: writeCompact (compactMembers rest members) value)

end

/-- The compact text of a value. -/
def compact (value : Json) : String :=
  String.ofList (writeCompact [] value)

/-- The number of octets of the compact text. -/
def compactSize (value : Json) : Nat :=
  value.compact.utf8ByteSize

/-! ## The indented form -/

/-- A line break and the blanks of a level. -/
def newLine (level : Nat) : List Char :=
  '\n' :: List.replicate (2 * level) ' '

mutual

/-- The indented text of a value at a level, followed by `rest`. -/
def writeIndented (level : Nat) (rest : List Char) : Json → List Char
  | .arr [] => '[' :: ']' :: rest
  | .arr (item :: items) =>
      '[' :: (newLine (level + 1) ++
        writeIndented (level + 1) (indentedItems level rest items) item)
  | .obj [] => '{' :: '}' :: rest
  | .obj ((key, value) :: members) =>
      '{' :: (newLine (level + 1) ++ (quoted key ++ ':' :: ' ' ::
        writeIndented (level + 1) (indentedMembers level rest members) value))
  | .null => scalarChars .ordinary .null ++ rest
  | .bool value => scalarChars .ordinary (.bool value) ++ rest
  | .int n => scalarChars .ordinary (.int n) ++ rest
  | .float x => scalarChars .ordinary (.float x) ++ rest
  | .str text => scalarChars .ordinary (.str text) ++ rest

/-- The items after the first, the closing bracket and `rest`. -/
def indentedItems (level : Nat) (rest : List Char) : List Json → List Char
  | [] => newLine level ++ ']' :: rest
  | item :: items =>
      ',' :: (newLine (level + 1) ++
        writeIndented (level + 1) (indentedItems level rest items) item)

/-- The members after the first, the closing brace and `rest`. -/
def indentedMembers (level : Nat) (rest : List Char) : List (String × Json) → List Char
  | [] => newLine level ++ '}' :: rest
  | (key, value) :: members =>
      ',' :: (newLine (level + 1) ++ (quoted key ++ ':' :: ' ' ::
        writeIndented (level + 1) (indentedMembers level rest members) value))

end

/-- The indented text of a value. -/
def indented (value : Json) : String :=
  String.ofList (writeIndented 0 [] value)

/-! ## The canonical form -/

/-- Texts with commas between them. -/
def commaSeparated : List (List Char) → List Char
  | [] => []
  | [text] => text
  | text :: texts => text ++ ',' :: commaSeparated texts

mutual

/-- The canonical text of a value. -/
def canonicalChars : Json → List Char
  | .arr items => '[' :: (commaSeparated (canonicalItems items) ++ [']'])
  | .obj members =>
      let written := KeyMap.sort (canonicalMembers members)
      '{' :: (commaSeparated (written.map fun (key, text) => key.toList ++ ':' :: text) ++ ['}'])
  | .null => scalarChars .canonical .null
  | .bool value => scalarChars .canonical (.bool value)
  | .int n => scalarChars .canonical (.int n)
  | .float x => scalarChars .canonical (.float x)
  | .str text => scalarChars .canonical (.str text)

/-- The canonical texts of items. -/
def canonicalItems : List Json → List (List Char)
  | [] => []
  | item :: items => canonicalChars item :: canonicalItems items

/-- The written keys of members with the canonical texts of their values. -/
def canonicalMembers : List (String × Json) → List (String × List Char)
  | [] => []
  | (key, value) :: members =>
      (String.ofList (quoted key), canonicalChars value) :: canonicalMembers members

end

/-- The canonical text of a value. -/
def canonical (value : Json) : String :=
  String.ofList (canonicalChars value)

end HubSpoke.Json
