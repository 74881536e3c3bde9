import HubSpoke.Json.Text
import HubSpoke.Yaml.Token

/-!
# Writing YAML

Collections are written as blocks, two columns to a level; a list stands at the column of the key
it belongs to.  A text with line feeds is written as a text block where that reads back, any other
one plain where that reads back, or else in single quotes if quoting is enough, and with escapes
otherwise.  A key that is long or has several lines stands after a question mark, and its value
after a colon of its own.
-/

namespace HubSpoke.Yaml

/-! ## Texts -/

/-- How a text is written. -/
inductive Style where
  | plain
  | single
  | double
  | block
deriving DecidableEq, Repr

/-- A character that stands in a document as it is. -/
def isPrintable (c : Char) : Bool :=
  let n := c.toNat
  n = 0x0A || (0x20 ≤ n && n ≤ 0x7E) || (0xA0 ≤ n && n ≤ 0xFFFD && n != 0xFEFF) || 0x10000 ≤ n

/-- Two neighbouring characters satisfy two conditions. -/
def hasPair (first second : Char → Bool) (chars : List Char) : Bool :=
  (chars.zip chars.tail).any fun (c, d) => first c && second d

/-- The start of a text would be read as something else. -/
def startsWithMark (chars : List Char) : Bool :=
  ['-', '-', '-'].isPrefixOf chars || ['.', '.', '.'].isPrefixOf chars ||
    match chars with
    | c :: rest => isReserved c || (['?', ':', '-'].contains c && isGap rest.head?)
    | [] => false

/-- A later part of a text would be read as something else: a colon before a boundary, or a number
sign after one. -/
def holdsMark : List Char → Bool
  | c :: d :: rest =>
      (d = ':' && isGap rest.head?) || (d = '#' && isGap (some c)) ||
        holdsMark (d :: rest)
  | _ => false

/-- The style of a text. -/
def styleOf (text : String) : Style :=
  let chars := text.toList
  let isSpace (c : Char) : Bool := c = ' '
  let hasBreak := chars.any isBreak
  let hasSpaceAtEnd := chars.getLast?.any isSpace
  if chars.any (fun c => !isPrintable c) || hasPair isSpace isBreak chars then .double
  else if chars.contains '\n' then if hasSpaceAtEnd then .double else .block
  else if hasPair isBreak isSpace chars then .double
  else if hasBreak || chars.head?.any isSpace || hasSpaceAtEnd || startsWithMark chars ||
      holdsMark chars || needsQuotes text then .single
  else .plain

/-- A number in upper-case hexadecimal with a least count of digits. -/
def hexadecimal (places n : Nat) : List Char :=
  let digits := (Nat.toDigits 16 n).map Char.toUpper
  List.replicate (places - digits.length) '0' ++ digits

def escapeLetters : List (Char × Char) := [
  ('\x00', '0'), ('\x07', 'a'), ('\x08', 'b'), ('\t', 't'), ('\n', 'n'), ('\x0b', 'v'),
  ('\x0c', 'f'), ('\r', 'r'), ('\x1b', 'e'), ('"', '"'), ('\\', '\\'), ('\u0085', 'N'),
  ('\u00a0', '_'), ('\u2028', 'L'), ('\u2029', 'P')]

/-- The written form of a character in double quotes. -/
def escapeChar (c : Char) : List Char :=
  if isPrintable c ∧ !isBreak c ∧ c ≠ '"' ∧ c ≠ '\\' then [c]
  else match escapeLetters.lookup c with
    | some letter => ['\\', letter]
    | none =>
        if c.toNat ≤ 0xFF then '\\' :: 'x' :: hexadecimal 2 c.toNat
        else if c.toNat ≤ 0xFFFF then '\\' :: 'u' :: hexadecimal 4 c.toNat
        else '\\' :: 'U' :: hexadecimal 8 c.toNat

/-- The written form of a text that is no text block. -/
def inlineText (style : Style) (text : String) : String :=
  match style with
  | .plain => text
  | .single =>
      let doubled := text.toList.flatMap fun c => if c = '\'' then [c, c] else [c]
      String.ofList ('\'' :: (doubled ++ ['\'']))
  | .double | .block => String.ofList ('"' :: (text.toList.flatMap escapeChar ++ ['"']))

/-! ## Lines -/

/-- A line and the character that ends it. -/
structure Line where
  text : String
  ending : Char := '\n'
deriving DecidableEq, Repr

/-- A line further to the right; an empty line stays empty. -/
def Line.indent (line : Line) : Line :=
  if line.text.isEmpty then line else { line with text := "  " ++ line.text }

/-- The lines of a text.  A line feed ends the last one if nothing else does. -/
def lines (text : String) : List Line :=
  let (ended, current) := text.toList.foldl
    (fun (state : List Line × List Char) c =>
      if isBreak c then (⟨String.ofList state.2.reverse, c⟩ :: state.1, [])
      else (state.1, c :: state.2))
    ([], [])
  (if current.isEmpty then ended else { text := String.ofList current.reverse } :: ended).reverse

/-- The line that opens a text block.  It says how far the text is indented if its first line does
not show it, and how the text ends unless that is one line end. -/
def blockHeader (text : String) : String :=
  let chars := text.toList
  let indent := if chars.head?.any (fun c => c = ' ' || isBreak c) then "2" else ""
  let chomping :=
    if !chars.getLast?.any isBreak then "-"
    else if chars.length ≤ 1 || chars.dropLast.getLast?.any isBreak then "+"
    else ""
  "|" ++ indent ++ chomping

def textLines (text : String) : List Line :=
  match styleOf text with
  | .block => { text := blockHeader text } :: lines text
  | style => lines (inlineText style text)

/-- The lines of a value that has no entries. -/
def scalarLines : Json → List Line
  | .arr _ => [{ text := "[]" }]
  | .obj _ => [{ text := "\x7b\x7d" }]
  | .str text => textLines text
  | .float x => [{ text := String.ofList (FloatFormat.bare.write x) }]
  | .null => [{ text := "null" }]
  | .bool value => [{ text := if value then "true" else "false" }]
  | .int n => [{ text := toString n }]

/-- All lines but the first further to the right. -/
def hanging : List Line → List Line
  | [] => []
  | first :: rest => first :: rest.map Line.indent

/-- Lines of which the first stands after a mark. -/
def after (mark : String) : List Line → List Line
  | [] => [{ text := mark }]
  | first :: rest => hanging ({ first with text := mark ++ " " ++ first.text } :: rest)

/-- The key may stand on one line with its colon: it has no line ends and is not long. -/
def isShortKey (key : String) : Bool :=
  !key.toList.any isBreak && key.utf8ByteSize ≤ 128

mutual

def valueLines : Json → List Line
  | .arr (item :: items) => itemLines (item :: items)
  | .obj (member :: members) => memberLines (member :: members)
  | value => scalarLines value

/-- The lines of list items. -/
def itemLines : List Json → List Line
  | [] => []
  | item :: items => after "-" (valueLines item) ++ itemLines items

def memberLines : List (String × Json) → List Line
  | [] => []
  | (key, value) :: members =>
      let name := inlineText (styleOf key) key ++ ":"
      let lines :=
        if !isShortKey key then after "?" (textLines key) ++ after ":" (valueLines value)
        else match value with
          | .arr (_ :: _) => { text := name } :: valueLines value
          | .obj (_ :: _) => { text := name } :: (valueLines value).map Line.indent
          | _ => after name (valueLines value)
      lines ++ memberLines members

end

/-- The text of a document. -/
def write (document : Json) : String :=
  let lines := match document with
    | .arr _ | .obj _ => valueLines document
    | _ => hanging (valueLines document)
  String.join (lines.map fun line => line.text.push line.ending)

end HubSpoke.Yaml
