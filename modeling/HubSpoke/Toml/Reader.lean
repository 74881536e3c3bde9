import HubSpoke.Text.Segments
import HubSpoke.Toml.Token

/-!
# Reading TOML

A document is read as the tree of its tables.  It is a list of statements, one a line, except that
a list may go on over several lines: headers, which name the table that follows, and assignments.

No table has two headers, and no key two values.  Of the values, dates, inline tables and strings
over several lines are not read.
-/

namespace HubSpoke.Toml

/-! ## Words -/

/-- Digits without the underscores that stand between two of them. -/
def ungrouped? (isDigit : Char → Bool) : List Char → Option (List Char)
  | [] => none
  | [c] => if isDigit c then some [c] else none
  | c :: d :: rest =>
      if !isDigit c then none
      else if d = '_' then (ungrouped? isDigit rest).map (c :: ·)
      else (ungrouped? isDigit (d :: rest)).map (c :: ·)

/-- Decimal digits. -/
def digits? : List Char → Option (List Char) :=
  ungrouped? Char.isDigit

/-- The digits before the point, where only zero itself starts with a zero. -/
def wholeDigits? (chars : List Char) : Option (List Char) :=
  (digits? chars).filter fun digits => digits.length = 1 || digits.head? != some '0'

/-- The number that digits spell. -/
def valueOf (radix : Nat) (digits : List Char) : Nat :=
  digits.foldl (fun value digit => value * radix + (Json.hexDigit? digit).getD 0) 0

/-- A number with a sign. -/
def signed (negative : Bool) (n : Nat) : Int :=
  if negative then -(n : Int) else n

/-- A sign, if there is one, and the rest. -/
def splitSign : List Char → Bool × List Char
  | '-' :: rest => (true, rest)
  | '+' :: rest => (false, rest)
  | chars => (false, chars)

/-- A whole number after its sign, in decimal or after the mark of another radix. -/
def whole? (negative : Bool) (chars : List Char) : Option Json :=
  let marked (radix : Nat) (digits : List Char) : Option Nat :=
    (ungrouped? (fun c => (Json.hexDigit? c).any (· < radix)) digits).map (valueOf radix)
  let magnitude? := match chars with
    | '0' :: 'x' :: digits => marked 16 digits
    | '0' :: 'o' :: digits => marked 8 digits
    | '0' :: 'b' :: digits => marked 2 digits
    | digits => (wholeDigits? digits).map (valueOf 10)
  magnitude?.map fun magnitude => .int (signed negative magnitude)

/-- A number with a fraction or a power of ten, after its sign. -/
def decimal? (negative : Bool) (chars : List Char) : Option Json := do
  let isMark (c : Char) : Bool := c = 'e' ∨ c = 'E'
  let mantissa := chars.takeWhile fun c => !isMark c
  let whole := mantissa.takeWhile (· != '.')
  let digits ← wholeDigits? whole
  let fraction ← if mantissa.contains '.' then digits? (mantissa.drop (whole.length + 1)) else some []
  let power ← if chars.any isMark then do
      let (negative, digits) := splitSign (chars.drop (mantissa.length + 1))
      pure (signed negative (valueOf 10 (← digits? digits)))
    else some 0
  let value ← Binary64.ofDecimal? negative (valueOf 10 (digits ++ fraction))
    (power - fraction.length)
  return .float value

/-- The value a word stands for.  Infinity and the value that is no number are told by a zero: no
setting takes it either. -/
def wordValue? (word : String) : Option Json :=
  if word = "true" then some (.bool true)
  else if word = "false" then some (.bool false)
  else
    let (negative, chars) := splitSign word.toList
    if chars = "inf".toList ∨ chars = "nan".toList then some (.float (.zero negative))
    else whole? negative chars <|> decimal? negative chars

/-! ## Values -/

/-- A value being read. -/
structure ValueDraft where
  /-- The lists still open, innermost first, each with its items so far, the last one first. -/
  lists : List (List Json) := []
  /-- An item may come next. -/
  isDue : Bool := true
  /-- The value, once it is complete. -/
  value : Option Json := none

namespace ValueDraft

/-- A value has been completed. -/
def put? (draft : ValueDraft) (value : Json) : Option ValueDraft :=
  match draft.isDue, draft.lists with
  | true, [] => some { lists := [], isDue := false, value := some value }
  | true, items :: rest =>
      some { lists := (value :: items) :: rest, isDue := false, value := none }
  | false, _ => none

/-- One token. -/
def step? (draft : ValueDraft) : Token → Option ValueDraft
  | .text text => draft.put? (.str text)
  | .word word => do draft.put? (← wordValue? word)
  | .opens => if draft.isDue then some { draft with lists := [] :: draft.lists } else none
  | .closes => match draft.lists with
      | items :: rest =>
          { draft with lists := rest, isDue := true }.put? (.arr items.reverse)
      | [] => none
  | .comma => if draft.isDue ∨ draft.lists.isEmpty then none else some { draft with isDue := true }
  | .lineEnd => if draft.lists.isEmpty then none else some draft
  | .equals => none

end ValueDraft

/-- The value that tokens spell. -/
def value? (tokens : List Token) : Option Json := do
  (← tokens.foldlM ValueDraft.step? {}).value

/-! ## Statements -/

inductive Statement where
  | header (path : List String)
  | assignment (path : List String) (value : Json)

/-- A part of a key that is written without quotes. -/
def isBareKey (part : String) : Bool :=
  !part.isEmpty && part.toList.all fun c => c.isAlphanum || c = '_' || c = '-'

/-- The path a key stands for. -/
def keyPath? : Token → Option (List String)
  | .text name => some [name]
  | .word word =>
      let parts := Text.segments '.' word
      if parts.all isBareKey then some parts else none
  | _ => none

/-- The statement of a line. -/
def statement? : List Token → Option Statement
  | [.opens, key, .closes] => (keyPath? key).map .header
  | key :: .equals :: tokens => do return .assignment (← keyPath? key) (← value? tokens)
  | _ => none

/-- Lines of tokens; a line goes on while a list is open.  The current line comes first and each
line has its last token first. -/
def addToken (lines : List Token × Nat × List (List Token)) (token : Token) :
    List Token × Nat × List (List Token) :=
  let (line, depth, done) := lines
  match token with
  | .lineEnd => if depth = 0 then ([], 0, line.reverse :: done) else (token :: line, depth, done)
  | .opens => (token :: line, depth + 1, done)
  | .closes => (token :: line, depth - 1, done)
  | .equals | .comma | .word _ | .text _ => (token :: line, depth, done)

/-- The lines that hold tokens, in order. -/
def lines (tokens : List Token) : List (List Token) :=
  let (last, _, done) := tokens.foldl addToken ([], 0, [])
  (last.reverse :: done).reverse.filter fun line => !line.isEmpty

/-! ## Tables -/

/-- The tables with a change made to the one at a path, which is created if there is none. -/
def within? (change : List (String × Json) → Option (List (String × Json))) :
    List String → List (String × Json) → Option (List (String × Json))
  | [], members => change members
  | name :: rest, members => do
      let inner ← match members.lookup name with
        | none => some []
        | some (.obj inner) => some inner
        | some _ => none
      let inner ← within? change rest inner
      return KeyMap.put name (.obj inner) members

/-- A document being read. -/
structure Draft where
  members : List (String × Json) := []
  /-- The paths of the headers so far, the last one first. -/
  headers : List (List String) := []

/-- One statement. -/
def Draft.step? (draft : Draft) : Statement → Option Draft
  | .header path =>
      if draft.headers.contains path then none
      else do
        let members ← within? some path draft.members
        return { members, headers := path :: draft.headers }
  | .assignment path value => do
      let name ← path.getLast?
      let put (members : List (String × Json)) : Option (List (String × Json)) :=
        if (members.lookup name).isSome then none else some (KeyMap.put name value members)
      let table := draft.headers.head?.getD [] ++ path.dropLast
      return { draft with members := ← within? put table draft.members }

/-- The tree a text spells, or nothing when it is no TOML. -/
def parse? (text : String) : Option Json := do
  let statements ← (lines (← tokens? text)).mapM statement?
  let draft ← statements.foldlM Draft.step? {}
  return .obj draft.members

end HubSpoke.Toml
