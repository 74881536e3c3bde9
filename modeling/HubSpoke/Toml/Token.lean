import HubSpoke.Json.Reader
import HubSpoke.Text.Utf8

/-!
# Tokens of TOML

A document is cut into tokens by a machine with one step per character.  Line ends are tokens,
blanks and comments are not.  Words are runs of the characters that keys, numbers and truth values
are made of; what a word means depends on where it stands.
-/

namespace HubSpoke.Toml

inductive Token where
  | lineEnd
  | equals
  | comma
  | opens
  | closes
  | word (text : String)
  /-- A string in quotes. -/
  | text (value : String)
deriving DecidableEq, Repr

/-- Where in a quoted string the lexer stands. -/
inductive Escape where
  /-- Between characters. -/
  | none
  /-- After a backslash. -/
  | opened
  /-- Inside a code point: how many digits are still due, and their value so far. -/
  | codePoint (due : Nat) (value : Nat)
deriving DecidableEq, Repr

/-- What the lexer is in the middle of. -/
inductive Mode where
  /-- Between tokens. -/
  | between
  /-- Inside a word; the last character stands first. -/
  | word (reversed : List Char)
  /-- Inside a string in double quotes. -/
  | text (reversed : List Char) (escape : Escape)
  /-- Inside a string in single quotes. -/
  | literal (reversed : List Char)
  | comment
  /-- After a carriage return. -/
  | afterReturn
  /-- After something that is no TOML. -/
  | stuck
deriving DecidableEq, Repr

/-- The state of the lexer. -/
structure Lexer where
  mode : Mode := .between
  /-- The tokens so far, the last one first. -/
  reversed : List Token := []
deriving Repr

/-- A character that words are made of. -/
def isWordChar (c : Char) : Bool :=
  c.isAlphanum || c = '_' || c = '-' || c = '+' || c = '.'

/-- A control character, which only stands in a document as a tab or in a line end. -/
def isControl (c : Char) : Bool :=
  (c.toNat < 0x20 && c != '\t') || c.toNat = 0x7F

/-- The character a one-letter escape stands for. -/
def unescape? : Char → Option Char
  | '"' => some '"'
  | '\\' => some '\\'
  | 'b' => some '\x08'
  | 'e' => some '\x1b'
  | 'f' => some '\x0c'
  | 'n' => some '\n'
  | 'r' => some '\r'
  | 't' => some '\t'
  | _ => none

namespace Lexer

/-- The lexer after something that is no TOML. -/
def getStuck (l : Lexer) : Lexer := { l with mode := .stuck }

/-- A token has been completed. -/
def push (l : Lexer) (token : Token) : Lexer :=
  { mode := .between, reversed := token :: l.reversed }

/-- A line has ended; ends of empty lines are dropped. -/
def endLine (l : Lexer) : Lexer :=
  match l.reversed with
  | [] | .lineEnd :: _ => { l with mode := .between }
  | _ => l.push .lineEnd

/-- A character between tokens. -/
def begin (l : Lexer) (c : Char) : Lexer :=
  match c with
  | ' ' | '\t' => l
  | '\n' => l.endLine
  | '\r' => { l with mode := .afterReturn }
  | '#' => { l with mode := .comment }
  | '=' => l.push .equals
  | ',' => l.push .comma
  | '[' => l.push .opens
  | ']' => l.push .closes
  | '"' => { l with mode := .text [] .none }
  | '\'' => { l with mode := .literal [] }
  | c => if isWordChar c then { l with mode := .word [c] } else l.getStuck

/-- A character inside a string in double quotes. -/
def stepText (l : Lexer) (reversed : List Char) (c : Char) : Escape → Lexer
  | .none =>
      if c = '"' then l.push (.text (String.ofList reversed.reverse))
      else if c = '\\' then { l with mode := .text reversed .opened }
      else if isControl c then l.getStuck
      else { l with mode := .text (c :: reversed) .none }
  | .opened =>
      if c = 'x' then { l with mode := .text reversed (.codePoint 2 0) }
      else if c = 'u' then { l with mode := .text reversed (.codePoint 4 0) }
      else if c = 'U' then { l with mode := .text reversed (.codePoint 8 0) }
      else match unescape? c with
        | some meant => { l with mode := .text (meant :: reversed) .none }
        | none => l.getStuck
  | .codePoint due value => match Json.hexDigit? c with
      | some digit =>
          let value := value * 16 + digit
          if 1 < due then { l with mode := .text reversed (.codePoint (due - 1) value) }
          else if value.isValidChar then
            { l with mode := .text (Char.ofNat value :: reversed) .none }
          else l.getStuck
      | none => l.getStuck

/-- One character. -/
def step (l : Lexer) (c : Char) : Lexer :=
  match l.mode with
  | .between => l.begin c
  | .word reversed =>
      if isWordChar c then { l with mode := .word (c :: reversed) }
      else (l.push (.word (String.ofList reversed.reverse))).begin c
  | .text reversed escape => l.stepText reversed c escape
  | .literal reversed =>
      if c = '\'' then l.push (.text (String.ofList reversed.reverse))
      else if isControl c then l.getStuck
      else { l with mode := .literal (c :: reversed) }
  | .comment =>
      if c = '\n' then l.endLine
      else if c = '\r' then { l with mode := .afterReturn }
      else if isControl c then l.getStuck
      else l
  | .afterReturn => if c = '\n' then l.endLine else l.getStuck
  | .stuck => l

/-- The tokens of a text that ends here. -/
def finish (l : Lexer) : Option (List Token) :=
  match l.mode with
  | .between | .comment => some l.reversed.reverse
  | .word reversed =>
      some (.word (String.ofList reversed.reverse) :: l.reversed).reverse
  | .text .. | .literal _ | .afterReturn | .stuck => none

end Lexer

/-- The tokens of a text, or nothing when it is no TOML. -/
def tokens? (text : String) : Option (List Token) :=
  ((Utf8.afterMark text.toList).foldl Lexer.step {}).finish

end HubSpoke.Toml
