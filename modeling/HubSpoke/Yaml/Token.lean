import HubSpoke.Yaml.Scalar

/-!
# Tokens of YAML

A document is cut into tokens by a machine with one step per character, which also sees the
character that comes next.  A scalar is held back until it is known whether a colon follows it on
its line and makes it a key.  Outside brackets a dash or a key starts a block only where nothing
but other such marks stands before it on its line, so the column tells which block it belongs to.
-/

namespace HubSpoke.Yaml

/-- A place in a document: its line, and its column there. -/
structure Place where
  line : Nat := 0
  column : Nat := 0
deriving DecidableEq, Repr

inductive Token where
  /-- The dash of a list item. -/
  | dash (place : Place)
  /-- The question mark of a key that may take more than one line. -/
  | question (place : Place)
  /-- The colon of the value that belongs to such a key. -/
  | colon (place : Place)
  /-- A key and the colon after it. -/
  | key (place : Place) (name : String)
  | scalar (place : Place) (scalar : Scalar)
  | openList (place : Place)
  | openMap (place : Place)
  | closeList
  | closeMap
  | comma
  /-- The three dashes before a document. -/
  | documentStart
  /-- The three points after a document. -/
  | documentEnd
  /-- Something that is no YAML, or none that is read here. -/
  | unreadable
deriving Repr

/-! ## Characters -/

/-- A character that may stand in a document. -/
def isAllowed (c : Char) : Bool :=
  let n := c.toNat
  c = '\t' || c = '\n' || c = '\r' || (0x20 ≤ n && n ≤ 0x7E) || n = 0x85 ||
    (0xA0 ≤ n && n ≤ 0xFFFD) || 0x10000 ≤ n

/-- A character that ends a line. -/
def isBreak (c : Char) : Bool :=
  c = '\n' || c = '\r' || c = '\u0085' || c = '\u2028' || c = '\u2029'

/-- The line end a character is read as: only the two separators stay what they are. -/
def lineEnd (c : Char) : Char :=
  if c = '\r' ∨ c = '\u0085' then '\n' else c

/-- A blank inside a line. -/
def isBlank (c : Char) : Bool :=
  c = ' ' || c = '\t'

/-- A blank, a line end or the end of the document. -/
def isGap (c : Option Char) : Bool :=
  c.all fun c => isBlank c || isBreak c

/-- A character that ends a scalar inside brackets. -/
def isFlowMark (c : Char) : Bool :=
  c = ',' || c = '[' || c = ']' || c = '{' || c = '}'

/-- A character that no scalar without quotes starts with. -/
def isReserved (c : Char) : Bool :=
  isFlowMark c || ['&', '*', '!', '|', '>', '\'', '"', '%', '@', '`', '#'].contains c

/-- The character a one-letter escape stands for. -/
def unescape? (c : Char) : Option Char :=
  [('0', '\x00'), ('a', '\x07'), ('b', '\x08'), ('t', '\t'), ('n', '\n'), ('v', '\x0b'),
    ('f', '\x0c'), ('r', '\r'), ('e', '\x1b'), (' ', ' '), ('\t', '\t'), ('"', '"'), ('/', '/'),
    ('\\', '\\'), ('N', '\u0085'), ('_', '\u00a0'), ('L', '\u2028'), ('P', '\u2029')].lookup c

/-- The number of digits of an escaped code point. -/
def codePointDigits? (c : Char) : Option Nat :=
  [('x', 2), ('u', 4), ('U', 8)].lookup c

/-- The mark of a document that characters at the start of a line are. -/
def documentMark? (chars : List Char) : Option Token :=
  if chars = ['-', '-', '-'] then some .documentStart
  else if chars = ['.', '.', '.'] then some .documentEnd
  else none

/-! ## Texts over several lines -/

/-- A text that may go over several lines, while it is read.  Blanks at the end of a line and at the
start of the next one do not belong to it. -/
structure FoldedText where
  /-- The text up to the last character that is no blank and no line end, that one first. -/
  reversed : List Char := []
  /-- The blanks since then, the last one first, if no line has ended. -/
  blanks : List Char := []
  /-- The line ends since then, the last one first; there is no character for one that was
  escaped. -/
  breaks : List (Option Char) := []
deriving DecidableEq, Repr

namespace FoldedText

/-- What line ends stand for, the last one first.  A line end alone is a blank, and before other
line ends it is nothing; a separator is itself, and an escaped line end is nothing. -/
def joined (breaks : List (Option Char)) : List Char :=
  match breaks.reverse with
  | [some '\n'] => [' ']
  | some '\n' :: rest => (rest.filterMap id).reverse
  | _ => breaks.filterMap id

/-- The text with the blanks and line ends after it, its last character first. -/
def settled (text : FoldedText) : List Char :=
  (if text.breaks.isEmpty then text.blanks else joined text.breaks) ++ text.reversed

/-- The text and a character that stands for itself. -/
def pushSolid (text : FoldedText) (c : Char) : FoldedText :=
  { reversed := c :: text.settled }

/-- The text and a character of the document. -/
def push (text : FoldedText) (c : Char) : FoldedText :=
  if isBreak c then { text with blanks := [], breaks := some c :: text.breaks }
  else if isBlank c then
    if text.breaks.isEmpty then { text with blanks := c :: text.blanks } else text
  else text.pushSolid c

/-- The text and a line end that was escaped. -/
def pushEscapedBreak (text : FoldedText) : FoldedText :=
  { reversed := text.settled, breaks := [none] }

end FoldedText

/-- How a text block treats the line ends after its last line. -/
inductive Chomping where
  | strip
  | clip
  | keep
deriving DecidableEq, Repr

/-- A text block being read. -/
structure TextBlock where
  chomping : Chomping := .clip
  /-- The column of the text, once its first line has been seen or it has been announced. -/
  indent : Option Nat := none
  /-- The lines before the current one, the last one first, each with its last character first and
  with the character that ends it, if there is one. -/
  lines : List (List Char × Option Char) := []
  /-- The current line, its last character first. -/
  line : List Char := []
deriving Repr

/-- The text of a block that ends after its last line. -/
def TextBlock.text (block : TextBlock) : String :=
  let withText := block.lines.dropWhile fun (line, _) => line.isEmpty
  let lines := match block.chomping, withText with
    | .keep, _ => block.lines
    | .strip, (line, _) :: rest => (line, none) :: rest
    | .strip, [] | .clip, _ => withText
  String.ofList (lines.reverse.flatMap fun (line, ending) => line.reverse ++ ending.toList)

/-! ## The machine -/

/-- Where in a string in double quotes the lexer stands. -/
inductive Escape where
  /-- Between characters. -/
  | none
  /-- After a backslash. -/
  | opened
  /-- Inside a code point: how many digits are still due, and their value so far. -/
  | codePoint (due : Nat) (value : Nat)
deriving DecidableEq, Repr

/-- Where on the line that opens a text block the lexer stands. -/
inductive HeaderPart where
  /-- Among the marks that say how the text is read. -/
  | marks
  | blanks
  | comment
deriving DecidableEq, Repr

/-- What the lexer is in the middle of. -/
inductive Mode where
  /-- Between tokens. -/
  | between
  | comment
  /-- Inside a scalar without quotes, or on the blanks and line ends after it. -/
  | plain (text : FoldedText)
  /-- Inside a string in single quotes; `quote` after a quote that is doubled or ends it. -/
  | single (text : FoldedText) (quote : Bool)
  /-- Inside a string in double quotes. -/
  | double (text : FoldedText) (escape : Escape)
  /-- On the line that opens a text block. -/
  | header (part : HeaderPart) (block : TextBlock)
  | block (block : TextBlock)
  /-- After something that is no YAML. -/
  | stuck
deriving Repr

/-- A scalar that may turn out to be a key. -/
structure Held where
  place : Place
  scalar : Scalar
deriving DecidableEq, Repr

/-- The state of the lexer. -/
structure Lexer where
  mode : Mode := .between
  place : Place := {}
  /-- Where the current token starts. -/
  start : Place := {}
  /-- Nothing but dashes and other marks of blocks stands before the current place on its line. -/
  isFresh : Bool := true
  /-- The least column of what the innermost block holds. -/
  inner : Nat := 0
  /-- The brackets still open. -/
  depth : Nat := 0
  held : Option Held := none
  /-- The tokens so far, the last one first. -/
  reversed : List Token := []

namespace Lexer

/-- A token has been completed. -/
def push (l : Lexer) (token : Token) : Lexer :=
  { l with mode := .between, reversed := token :: l.reversed }

/-- The lexer after something that is no YAML. -/
def getStuck (l : Lexer) : Lexer :=
  { l.push .unreadable with mode := .stuck }

/-- The scalar held back is no key. -/
def release (l : Lexer) : Lexer :=
  match l.held with
  | none => l
  | some held =>
      { l with
        held := none
        isFresh := false
        reversed := .scalar held.place held.scalar :: l.reversed }

/-- A scalar has been completed. -/
def hold (l : Lexer) (text : List Char) (isQuoted : Bool) : Lexer :=
  { l.release with
    mode := .between
    held := some { place := l.start, scalar := { text := String.ofList text, isQuoted } } }

/-- The mark of a block, after which another block may start on the same line. -/
def pushMark (l : Lexer) (token : Token) : Lexer :=
  if l.isFresh then { l.push token with inner := l.place.column + 1 } else l.getStuck

/-- A colon: the scalar held back is a key, or else the value of an earlier key follows. -/
def pushColon (l : Lexer) : Lexer :=
  match l.held with
  | some held =>
      if held.place.line ≠ l.place.line ∨ (l.depth = 0 ∧ !l.isFresh) then l.getStuck
      else
        { l with
          mode := .between
          held := none
          isFresh := false
          inner := if l.depth = 0 then held.place.column + 1 else l.inner
          reversed := .key held.place held.scalar.text :: l.reversed }
  | none => if l.depth = 0 then l.pushMark (.colon l.place) else l.getStuck

def openBracket (l : Lexer) (token : Token) : Lexer :=
  let l := l.release
  { l.push token with depth := l.depth + 1, isFresh := false }

def closeBracket (l : Lexer) (token : Token) : Lexer :=
  let l := l.release
  if l.depth = 0 then l.getStuck else { l.push token with depth := l.depth - 1 }

/-- A line has ended. -/
def endLine (l : Lexer) : Lexer :=
  let l := if l.depth = 0 then l.release else l
  { l with mode := .between, isFresh := true }

/-- A scalar without quotes starts, if it may. -/
def beginPlain (l : Lexer) (c : Char) (next : Option Char) : Lexer :=
  let mayStart :=
    if c = '-' then !isGap next
    else if c = '?' ∨ c = ':' then !isGap next && l.depth = 0
    else !isReserved c
  if mayStart then { l with mode := .plain { reversed := [c] } } else l.getStuck

/-- A character between tokens.  A byte order mark before all else only takes its column. -/
def begin (l : Lexer) (c : Char) (next : Option Char) : Lexer :=
  let l := { l with start := l.place }
  match c with
  | ' ' => l
  | '\t' => if l.depth = 0 ∧ l.isFresh then l.getStuck else l
  | '#' => { l with mode := .comment }
  | '[' => l.openBracket (.openList l.place)
  | '{' => l.openBracket (.openMap l.place)
  | ']' => l.closeBracket .closeList
  | '}' => l.closeBracket .closeMap
  | '"' => { l.release with mode := .double {} .none }
  | '\'' => { l.release with mode := .single {} false }
  | c =>
      if isBreak c then l.endLine
      else if c = '\ufeff' ∧ l.place = {} then l
      else if c = ',' ∧ l.depth ≠ 0 then l.release.push .comma
      else if c = ':' ∧ (isGap next ∨ (l.depth ≠ 0 ∧ l.held.any fun held => held.scalar.isQuoted))
      then l.pushColon
      else if l.held.isSome then l.getStuck
      else if c = '-' ∧ isGap next ∧ l.depth = 0 then l.pushMark (.dash l.place)
      else if c = '?' ∧ isGap next ∧ l.depth = 0 then l.pushMark (.question l.place)
      else if c = '|' ∧ l.depth = 0 then { l with mode := .header .marks {} }
      else l.beginPlain c next

/-- The mark of a document, if the current scalar without quotes is one. -/
def documentMark? (l : Lexer) (text : FoldedText) : Option Token :=
  if l.start.column = 0 then Yaml.documentMark? text.reversed.reverse else none

/-- A scalar without quotes has been completed. -/
def endPlain (l : Lexer) (text : FoldedText) : Lexer :=
  match l.documentMark? text with
  | none => l.hold text.reversed.reverse false
  | some mark =>
      if l.depth = 0 then { l.release.push mark with isFresh := false } else l.getStuck

/-- A blank or a line end inside a scalar without quotes or after it. -/
def stepPlainGap (l : Lexer) (text : FoldedText) (c : Char) (next : Option Char) : Lexer :=
  if (l.documentMark? text).isSome then (l.endPlain text).begin c next
  else if c = '\t' ∧ !text.breaks.isEmpty ∧ l.place.column < l.inner then l.getStuck
  else { l with mode := .plain (text.push c) }

/-- A character inside a scalar without quotes or after it.  The scalar goes on over line ends
while its lines belong to the innermost block. -/
def stepPlain (l : Lexer) (text : FoldedText) (c : Char) (next : Option Char) : Lexer :=
  let isComment := c = '#' && !(text.blanks.isEmpty && text.breaks.isEmpty)
  let isMark := (c = ':' && (isGap next || (l.depth > 0 && next.any isFlowMark))) ||
    (l.depth > 0 && isFlowMark c)
  if isGap (some c) then l.stepPlainGap text c next
  else if !text.breaks.isEmpty ∧ l.depth = 0 ∧ (isComment ∨ l.place.column < l.inner) then
    (l.endPlain text).endLine.begin c next
  else if isComment ∨ isMark then (l.endPlain text).begin c next
  else { l with mode := .plain (text.pushSolid c) }

/-- A character inside a string in single quotes. -/
def stepSingle (l : Lexer) (text : FoldedText) (quote : Bool) (c : Char) (next : Option Char) :
    Lexer :=
  if quote then { l with mode := .single (text.pushSolid c) false }
  else if c ≠ '\'' then { l with mode := .single (text.push c) false }
  else if next = some '\'' then { l with mode := .single text true }
  else l.hold text.settled.reverse true

/-- A character inside a string in double quotes. -/
def stepDouble (l : Lexer) (text : FoldedText) (c : Char) : Escape → Lexer
  | .none =>
      if c = '"' then l.hold text.settled.reverse true
      else if c = '\\' then { l with mode := .double text .opened }
      else { l with mode := .double (text.push c) .none }
  | .opened => match unescape? c, codePointDigits? c with
      | some meant, _ => { l with mode := .double (text.pushSolid meant) .none }
      | none, some due => { l with mode := .double text (.codePoint due 0) }
      | none, none =>
          if isBreak c then { l with mode := .double text.pushEscapedBreak .none } else l.getStuck
  | .codePoint due value => match Json.hexDigit? c with
      | some digit =>
          let value := value * 16 + digit
          if 1 < due then { l with mode := .double text (.codePoint (due - 1) value) }
          else if value.isValidChar then
            { l with mode := .double (text.pushSolid (Char.ofNat value)) .none }
          else l.getStuck
      | none => l.getStuck

/-- A character of the line that opens a text block, which may announce how far the text is
indented. -/
def stepHeader (l : Lexer) (part : HeaderPart) (block : TextBlock) (c : Char) : Lexer :=
  if isBreak c then { l with mode := .block block }
  else if part = .comment ∨ c = '#' then { l with mode := .header .comment block }
  else if isBlank c then { l with mode := .header .blanks block }
  else if part = .blanks then l.getStuck
  else if c = '-' then { l with mode := .header .marks { block with chomping := .strip } }
  else if c = '+' then { l with mode := .header .marks { block with chomping := .keep } }
  else match digitOf? 10 c with
    | some n => { l with mode := .header .marks { block with indent := some (l.inner - 1 + n) } }
    | none => l.getStuck

/-- A text block has been completed, at the start of a line. -/
def endBlock (l : Lexer) (block : TextBlock) : Lexer :=
  { l.push (.scalar l.start { text := block.text, isQuoted := true }) with isFresh := true }

/-- A character inside a text block. -/
def stepBlock (l : Lexer) (block : TextBlock) (c : Char) (next : Option Char) : Lexer :=
  let column := l.place.column
  if isBreak c then
    let lines := (block.line, some c) :: block.lines
    { l with mode := .block { block with lines, line := [] } }
  else if block.line.isEmpty ∧ c = ' ' ∧ block.indent.all (column < ·) then l
  else
    let indent := block.indent.getD column
    if block.line.isEmpty ∧ (column < indent ∨ indent < max l.inner 1) then
      (l.endBlock block).begin c next
    else
      { l with mode := .block { block with indent := some indent, line := c :: block.line } }

/-- One character at the current place, with the one that comes next. -/
def stepHere (l : Lexer) (c : Char) (next : Option Char) : Lexer :=
  match l.mode with
  | .between => l.begin c next
  | .comment => if isBreak c then l.endLine else l
  | .plain text => l.stepPlain text c next
  | .single text quote => l.stepSingle text quote c next
  | .double text escape => l.stepDouble text c escape
  | .header part block => l.stepHeader part block c
  | .block block => l.stepBlock block c next
  | .stuck => l

/-- One character, with the one that comes next.  A carriage return before a line feed is part of
the same line end. -/
def step (l : Lexer) (c : Char) (next : Option Char) : Lexer :=
  if c = '\r' ∧ next = some '\n' then l
  else
    { l.stepHere (lineEnd c) next with
      place :=
        if isBreak c then { line := l.place.line + 1 }
        else { l.place with column := l.place.column + 1 } }

/-- The lexer after some characters. -/
def run (l : Lexer) : List Char → Lexer
  | [] => l
  | c :: rest => (l.step c rest.head?).run rest

/-- The tokens of a document that ends here. -/
def finish (l : Lexer) : List Token :=
  let l := match l.mode with
    | .plain text => l.endPlain text
    | .block block =>
        l.endBlock { block with
          lines := if block.line.isEmpty then block.lines else (block.line, none) :: block.lines }
    | .header _ block => l.endBlock block
    | .comment => { l with mode := .between }
    | .single .. | .double .. => l.getStuck
    | .between | .stuck => l
  l.release.reversed.reverse

end Lexer

/-- The tokens of a text. -/
def tokens (text : String) : List Token :=
  (Lexer.run {} text.toList).finish

end HubSpoke.Yaml
