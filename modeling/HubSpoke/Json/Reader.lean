import HubSpoke.Json.Outline

/-!
# Reading JSON text

The reader is a machine with one step per symbol: it keeps the containers still open, innermost
first, and what it is in the middle of.  A symbol is a character, or nothing for octets that spell
no character; those may stand inside a string, which is then no string value, and nowhere else.

Reading a text is one fold of `Reader.step`, so reading `a ++ b` is reading `b` from where `a`
left the machine.
-/

namespace HubSpoke.Json

/-! ## Strings -/

/-- The part of a string that has been read. -/
structure TextDraft where
  /-- The characters so far, the last one first. -/
  reversed : List Char
  /-- The first half of a surrogate pair whose second half is due. -/
  half : Option Nat
  /-- Nothing in the string was malformed. -/
  sound : Bool
deriving Repr

namespace TextDraft

/-- The draft of the empty string. -/
def empty : TextDraft := ⟨[], none, true⟩

/-- Adds a character; a half pair before it stays half. -/
def push (draft : TextDraft) (c : Char) : TextDraft :=
  { draft with reversed := c :: draft.reversed, sound := draft.sound && draft.half.isNone }

/-- Adds octets that spell no character. -/
def pushMalformed (draft : TextDraft) : TextDraft :=
  { draft with sound := false }

/-- Adds an escaped code unit, joining the two halves of a pair. -/
def pushUnit (draft : TextDraft) (unit : Nat) : TextDraft :=
  let isHigh : Bool := 0xD800 ≤ unit ∧ unit < 0xDC00
  let isLow : Bool := 0xDC00 ≤ unit ∧ unit < 0xE000
  match draft.half with
  | some high =>
      if isLow then
        let c := Char.ofNat (0x10000 + (high - 0xD800) * 0x400 + (unit - 0xDC00))
        { draft with reversed := c :: draft.reversed, half := none }
      else { draft with sound := false }
  | none =>
      if isHigh then { draft with half := some unit }
      else if isLow then { draft with sound := false }
      else draft.push (Char.ofNat unit)

/-- The string read, or nothing when it was malformed. -/
def finish (draft : TextDraft) : Option String :=
  if draft.sound && draft.half.isNone then some (String.ofList draft.reversed.reverse) else none

end TextDraft

/-- The character a one-letter escape stands for. -/
def unescape? : Char → Option Char
  | '"' => some '"'
  | '\\' => some '\\'
  | '/' => some '/'
  | 'b' => some '\x08'
  | 'f' => some '\x0c'
  | 'n' => some '\n'
  | 'r' => some '\r'
  | 't' => some '\t'
  | _ => none

/-- The value of a hexadecimal digit of either case. -/
def hexDigit? (c : Char) : Option Nat :=
  if c.isDigit then some (c.toNat - '0'.toNat)
  else if 'a' ≤ c ∧ c ≤ 'f' then some (c.toNat - 'a'.toNat + 10)
  else if 'A' ≤ c ∧ c ≤ 'F' then some (c.toNat - 'A'.toNat + 10)
  else none

/-- Where in a string the reader stands. -/
inductive Escape where
  /-- Between characters. -/
  | none
  /-- After a backslash. -/
  | opened
  /-- After `\u` and some digits: how many are still due, and their value so far. -/
  | unit (due : Nat) (value : Nat)
deriving Repr

/-! ## The machine -/

/-- A container still open, with what it holds so far, the last one first. -/
inductive Frame where
  | items (done : List Outline)
  /-- An object between members. -/
  | members (done : List (Option String × Outline))
  /-- An object after a key. -/
  | member (done : List (Option String × Outline)) (key : Option String)

/-- What must come next. -/
inductive Awaited where
  /-- A value. -/
  | value
  /-- The first entry of a container, or its end. -/
  | first
  /-- A comma, or the end of the innermost container or of the text. -/
  | next
  /-- The key of one more member. -/
  | key
  | colon
deriving DecidableEq

/-- What the reader is in the middle of. -/
inductive Mode where
  /-- Between tokens. -/
  | between
  /-- Inside `null`, `true` or `false`, with the characters still due. -/
  | word (due : List Char) (value : Outline)
  | numeral (draft : NumeralDraft)
  | text (draft : TextDraft) (escape : Escape)
  /-- After something that is no JSON. -/
  | stuck

/-- The state of the machine. -/
structure Reader where
  mode : Mode
  awaited : Awaited
  frames : List Frame
  /-- The value of the whole text, once it is complete. -/
  root : Option Outline

namespace Reader

/-- The machine before the first symbol. -/
def start : Reader := ⟨.between, .value, [], none⟩

/-- The machine after something that is no JSON. -/
def getStuck (r : Reader) : Reader := { r with mode := .stuck }

/-- A value may come next. -/
def awaitsValue (r : Reader) : Bool :=
  match r.awaited, r.frames with
  | .value, _ => true
  | .first, .items _ :: _ => true
  | _, _ => false

/-- A key may come next. -/
def awaitsKey (r : Reader) : Bool :=
  match r.awaited, r.frames with
  | .key, _ => true
  | .first, .members _ :: _ => true
  | _, _ => false

/-- A value has been completed. -/
def put (r : Reader) (value : Outline) : Reader :=
  match r.frames with
  | [] => ⟨.between, .next, [], some value⟩
  | .items done :: rest => { r with
      mode := .between, awaited := .next, frames := .items (value :: done) :: rest }
  | .member done key :: rest => { r with
      mode := .between, awaited := .next, frames := .members ((key, value) :: done) :: rest }
  | .members _ :: _ => r.getStuck

/-- A string has been completed: a key where one is due, and a value elsewhere. -/
def putText (r : Reader) (value : Option String) : Reader :=
  if r.awaitsKey then match r.frames with
    | .members done :: rest => { r with
        mode := .between, awaited := .colon, frames := .member done value :: rest }
    | _ => r.getStuck
  else r.put (.text value)

/-- A container opens. -/
def openFrame (r : Reader) (frame : Frame) : Reader :=
  if r.awaitsValue then { r with awaited := .first, frames := frame :: r.frames }
  else r.getStuck

/-- An array or an object closes. -/
def closeFrame (r : Reader) (isArray : Bool) : Reader :=
  if r.awaited = .first ∨ r.awaited = .next then
    match isArray, r.frames with
    | true, .items done :: rest => { r with frames := rest }.put (.array done.reverse true)
    | false, .members done :: rest => { r with frames := rest }.put (.object done.reverse true)
    | _, _ => r.getStuck
  else r.getStuck

/-- A comma has been read. -/
def separate (r : Reader) : Reader :=
  match r.awaited, r.frames with
  | .next, .items _ :: _ => { r with awaited := .value }
  | .next, .members _ :: _ => { r with awaited := .key }
  | _, _ => r.getStuck

/-- One of the words has begun. -/
def beginWord (r : Reader) (due : List Char) (value : Outline) : Reader :=
  if r.awaitsValue then { r with mode := .word due value } else r.getStuck

/-- A symbol between tokens. -/
def begin (r : Reader) : Option Char → Reader
  | none => r.getStuck
  | some c => match c with
      | ' ' | '\t' | '\n' | '\r' => r
      | '[' => r.openFrame (.items [])
      | '{' => r.openFrame (.members [])
      | ']' => r.closeFrame true
      | '}' => r.closeFrame false
      | ',' => r.separate
      | ':' => if r.awaited = .colon then { r with awaited := .value } else r.getStuck
      | '"' =>
          if r.awaitsValue || r.awaitsKey then { r with mode := .text .empty .none }
          else r.getStuck
      | 'n' => r.beginWord ['u', 'l', 'l'] .null
      | 't' => r.beginWord ['r', 'u', 'e'] (.bool true)
      | 'f' => r.beginWord ['a', 'l', 's', 'e'] (.bool false)
      | c => match NumeralDraft.start? c with
          | some draft => if r.awaitsValue then { r with mode := .numeral draft } else r.getStuck
          | none => r.getStuck

/-- A symbol inside a string. -/
def stepText (r : Reader) (draft : TextDraft) : Escape → Option Char → Reader
  | .none, none => { r with mode := .text draft.pushMalformed .none }
  | .none, some c =>
      if c = '"' then r.putText draft.finish
      else if c = '\\' then { r with mode := .text draft .opened }
      else if c.toNat < 0x20 then r.getStuck
      else { r with mode := .text (draft.push c) .none }
  | .opened, some c =>
      if c = 'u' then { r with mode := .text draft (.unit 4 0) }
      else match unescape? c with
        | some meant => { r with mode := .text (draft.push meant) .none }
        | none => r.getStuck
  | .unit due value, some c => match hexDigit? c with
      | some d =>
          if due ≤ 1 then { r with mode := .text (draft.pushUnit (value * 16 + d)) .none }
          else { r with mode := .text draft (.unit (due - 1) (value * 16 + d)) }
      | none => r.getStuck
  | _, none => r.getStuck

/-- The machine with a numeral completed, if it is in the middle of one. -/
def settle (r : Reader) : Reader :=
  match r.mode with
  | .numeral draft => match draft.finish? with
      | some numeral => r.put (.number numeral)
      | none => r.getStuck
  | _ => r

/-- One symbol. -/
def step (r : Reader) (symbol : Option Char) : Reader :=
  match r.mode with
  | .between => r.begin symbol
  | .word due value =>
      if due.head?.map some = some symbol then
        if due.length ≤ 1 then r.put value else { r with mode := .word due.tail value }
      else r.getStuck
  | .numeral draft => match symbol.bind draft.extend? with
      | some longer => { r with mode := .numeral longer }
      | none =>
          -- a digit that does not continue a numeral stands after a leading zero
          if symbol.any Char.isDigit then r.getStuck
          else match r.settle.mode with
            | .between => r.settle.begin symbol
            | _ => r.settle
  | .text draft escape => r.stepText draft escape symbol
  | .stuck => r

/-! ## The end of the text -/

/-- The outline of the whole text, given what stands inside the innermost open container. -/
def close (inner : Option Outline) : List Frame → Outline
  | [] => inner.getD .broken
  | .items done :: rest => close (some (.array (inner.toList ++ done).reverse false)) rest
  | .members done :: rest => close (some (.object done.reverse false)) rest
  | .member done key :: rest =>
      close (some (.object ((key, inner.getD .broken) :: done).reverse false)) rest

/-- The outline read so far. -/
def outline (r : Reader) : Outline :=
  match r.settle.root with
  | some value => value
  | none => close none r.settle.frames

/-- A value has been completed and nothing but blanks follows it. -/
def isDone (r : Reader) : Bool :=
  match r.settle.mode, r.settle.root with
  | .between, some _ => true
  | _, _ => false

end Reader

/-- The machine after a text. -/
def readSymbols (symbols : List (Option Char)) : Reader :=
  symbols.foldl Reader.step Reader.start

/-- The symbols of a text. -/
def symbols (text : String) : List (Option Char) :=
  text.toList.map some

variable [FloatReading]

/-- The value spelled by a whole text that nests at most `levels` containers. -/
def parseWithin? (levels : Nat) (text : String) : Option Json :=
  let reader := readSymbols (symbols text)
  if reader.isDone then reader.outline.value? levels else none

/-- The value spelled by a whole text. -/
def parse? (text : String) : Option Json :=
  parseWithin? maxDepth text

end HubSpoke.Json
