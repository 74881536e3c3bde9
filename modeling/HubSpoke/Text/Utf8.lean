/-!
# UTF-8

Octets are decoded by a machine with one step per octet.  An octet sequence that spells no
character is told as a gap where a character was due: each gap is a longest start of a character
that does not continue, so an octet that ends one is looked at again.

`Utf8.decode` gives the text, or tells where it first goes wrong.
-/

namespace HubSpoke.Utf8

/-- A character of which some octets have been read. -/
structure Partial where
  /-- The octets read. -/
  seen : Nat
  /-- The octets still due. -/
  due : Nat
  /-- The bounds of the next octet. -/
  least : UInt8
  greatest : UInt8
  /-- The bits read. -/
  value : Nat
deriving Repr, DecidableEq

/-- The first place where octets are no text. -/
structure Fault where
  /-- The octets before it. -/
  index : Nat
  /-- The octets that spell nothing, unless the text ends within a character. -/
  length : Option Nat
deriving Repr, DecidableEq

def Fault.message (fault : Fault) : String :=
  match fault.length with
  | some length =>
      "invalid utf-8 sequence of " ++ toString length ++ " bytes from index " ++
        toString fault.index
  | none => "incomplete utf-8 byte sequence from index " ++ toString fault.index

/-- The state of the machine. -/
structure Decoder where
  pending : Option Partial := none
  /-- The octets read. -/
  position : Nat := 0
  fault : Option Fault := none
deriving Repr

/-- What an octet that starts a character makes of it: a character, a part of one, or nothing. -/
def start (octet : UInt8) : Option (Char ⊕ Partial) :=
  let n := octet.toNat
  if n < 0x80 then some (.inl (Char.ofNat n))
  else if n < 0xC2 then none
  else if n < 0xE0 then some (.inr ⟨1, 1, 0x80, 0xBF, n - 0xC0⟩)
  else if n = 0xE0 then some (.inr ⟨1, 2, 0xA0, 0xBF, 0⟩)
  else if n = 0xED then some (.inr ⟨1, 2, 0x80, 0x9F, 0xD⟩)
  else if n < 0xF0 then some (.inr ⟨1, 2, 0x80, 0xBF, n - 0xE0⟩)
  else if n = 0xF0 then some (.inr ⟨1, 3, 0x90, 0xBF, 0⟩)
  else if n < 0xF4 then some (.inr ⟨1, 3, 0x80, 0xBF, n - 0xF0⟩)
  else if n = 0xF4 then some (.inr ⟨1, 3, 0x80, 0x8F, 4⟩)
  else none

namespace Decoder

/-- The machine after octets that spell nothing, of which the last is the one before `position`. -/
def gap (d : Decoder) (length : Nat) : Decoder :=
  { d with
    pending := none
    fault := d.fault <|> some ⟨d.position - length, some length⟩ }

/-- An octet between characters, and the symbols it completes. -/
def begin (d : Decoder) (octet : UInt8) : Decoder × List (Option Char) :=
  let d := { d with pending := none, position := d.position + 1 }
  match start octet with
  | some (.inl c) => (d, [some c])
  | some (.inr part) => ({ d with pending := some part }, [])
  | none => (d.gap 1, [none])

/-- One octet, and the symbols it completes. -/
def step (d : Decoder) (octet : UInt8) : Decoder × List (Option Char) :=
  match d.pending with
  | none => d.begin octet
  | some part =>
      if part.least ≤ octet ∧ octet ≤ part.greatest then
        let value := part.value * 64 + (octet.toNat - 0x80)
        let d := { d with position := d.position + 1 }
        if part.due ≤ 1 then ({ d with pending := none }, [some (Char.ofNat value)])
        else ({ d with
          pending := some ⟨part.seen + 1, part.due - 1, 0x80, 0xBF, value⟩ }, [])
      else
        let (d, symbols) := (d.gap part.seen).begin octet
        (d, none :: symbols)

/-- The symbols that the end of the text completes. -/
def rest (d : Decoder) : List (Option Char) :=
  if d.pending.isSome then [none] else []

/-- The first fault of a text that ends here. -/
def finish (d : Decoder) : Option Fault :=
  d.fault <|> d.pending.map fun part => ⟨d.position - part.seen, none⟩

end Decoder

/-- The text that octets spell, or the first place where they are no text. -/
def decode (octets : ByteArray) : Except Fault String :=
  let (decoder, text) := octets.foldl
    (fun (state : Decoder × String) octet =>
      let (decoder, symbols) := state.1.step octet
      (decoder, symbols.foldl (fun text symbol => symbol.elim text text.push) state.2))
    ({}, "")
  match decoder.finish with
  | some fault => .error fault
  | none => .ok text

/-- Characters without the byte order mark that may stand first. -/
def afterMark : List Char → List Char
  | '\ufeff' :: rest => rest
  | chars => chars

end HubSpoke.Utf8
