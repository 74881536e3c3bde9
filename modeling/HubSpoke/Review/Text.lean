import HubSpoke.Json.Octets
import HubSpoke.Review.Envelope

/-!
# Reviews from text

A review is read from its text as it goes: members in the order written, each checked as it comes,
so the first thing wrong is told, be it a value of the wrong type or a text that stops being JSON.
A key may stand only once.  Members nobody asks for are passed over.

What a part of the envelope may hold is described by a `Part`; checking an outline against it
gives the plain value with the members asked for, which the codec of reviews then reads.
-/

namespace HubSpoke

/-- Why a text is no review. -/
inductive TextFault where
  | notJson
  | mismatch (cause : Mismatch)
deriving DecidableEq, Repr

def TextFault.message : TextFault → String
  | .notJson => "<json>"
  | .mismatch cause => cause.message

namespace Json.Outline

variable [FloatReading]

/-- What a decoder finds in an outline. -/
def found : Outline → Except TextFault Found
  | .null => .ok .null
  | .bool value => .ok (.flag value)
  | .number numeral => match numeral.value? with
      | some value => .ok value.found
      | none => .error .notJson
  | .text (some value) => .ok (.text value)
  | .text none => .error .notJson
  | .array .. => .ok .sequence
  | .object .. => .ok .map
  | .broken => .error .notJson

/-- The fault of an outline that is not of the type expected. -/
def refuse (outline : Outline) (expected : Expected) : TextFault :=
  match outline.found with
  | .ok found => .mismatch (.wrongType found expected)
  | .error fault => fault

def readText : Outline → Except TextFault Json
  | .text (some value) => .ok (.str value)
  | outline => .error (outline.refuse .text)

/-- A list of any values, in which `levels` containers may nest, itself included. -/
def readList (levels : Nat) : Outline → Except TextFault Json
  | .array items closed =>
      match (Outline.array items closed).value? levels with
      | some value => .ok value
      | none => .error .notJson
  | outline => .error (outline.refuse .sequence)

end Json.Outline

namespace Review

open Json (Outline)
open Json.Outline (readText readList)

variable [Json.FloatReading]

/-- Reads a part of the envelope. -/
abbrev Reading := Outline → Except TextFault Json

/-- The members asked for, in the order written. -/
def readMembers (asked : List (String × Reading)) (seen : List String) :
    List (Option String × Outline) → Except TextFault (List (String × Json))
  | [] => .ok []
  | (none, _) :: _ => .error .notJson
  | (some key, item) :: rest => match asked.lookup key with
      | some read =>
          if seen.contains key then .error (.mismatch (.repeatedField key))
          else do
            let value ← read item
            let members ← readMembers asked (key :: seen) rest
            return (key, value) :: members
      | none =>
          if item.isSkippable then readMembers asked seen rest else .error .notJson

/-- The items of a record written as an array. -/
def readItems : List Reading → List Outline → Except TextFault (List Json)
  | read :: more, item :: rest => do
      let value ← read item
      let values ← readItems more rest
      return value :: values
  | [], _ :: _ => .error .notJson
  | _, [] => .ok []

/-- A record with the given fields, which its codec accepts. -/
def readRecord {σ : Type} (typeName : String) (codec : Codec σ) (asked : List (String × Reading)) :
    Reading
  | .object members closed => do
      let members ← readMembers asked [] members
      if !closed then throw .notJson
      let value := Json.obj members
      let _ ← (codec.decode value).mapError .mismatch
      return value
  | .array items closed => do
      let values ← readItems (asked.map Prod.snd) items
      if !closed then throw .notJson
      let value := Json.arr values
      let _ ← (codec.decode value).mapError .mismatch
      return value
  | outline => .error (outline.refuse (.record typeName))

/-- A part that null leaves out. -/
def readOptional (read : Reading) : Reading
  | .null => .ok .null
  | outline => read outline

def readStatus : Reading :=
  readRecord "ReviewStatus" ReviewStatus.codec
    [("status", readText), ("message", readText)]

/-- A request, in which `levels` containers may nest. -/
def readRequest (levels : Nat) : Reading :=
  readRecord "ConversionRequest" ConversionRequest.codec
    [("uid", readText), ("desiredAPIVersion", readText), ("objects", readList (levels - 1))]

/-- A response, in which `levels` containers may nest. -/
def readResponse (levels : Nat) : Reading :=
  readRecord "ConversionResponse" ConversionResponse.codec
    [("uid", readText), ("convertedObjects", readList (levels - 1)), ("result", readStatus)]

/-- A review, in which `levels` containers may nest. -/
def readReview (levels : Nat) : Reading :=
  readRecord "ConversionReview" ConversionReview.codec
    [("apiVersion", readText), ("kind", readText),
      ("request", readOptional (readRequest (levels - 1))),
      ("response", readOptional (readResponse (levels - 1)))]

end Review

/-- The review that octets spell. -/
def ConversionReview.ofOctets [Json.FloatReading] (octets : ByteArray) :
    Except TextFault ConversionReview := do
  let reader := Json.readOctets octets
  let value ← Review.readReview Json.maxDepth reader.outline
  let review ← (codec.decode value).mapError .mismatch
  if reader.isDone then return review else .error .notJson

/-- The text of a review, its fields in order. -/
def ConversionReview.members (review : ConversionReview) : List (String × Json) :=
  [("apiVersion", .str review.apiVersion), ("kind", .str review.kind)] ++
  (review.request.toList.map fun request =>
    ("request", .obj (ConversionRequest.fields.members request))) ++
  review.response.toList.map fun response => ("response", .obj [
    ("uid", .str response.uid),
    ("convertedObjects", .arr response.convertedObjects),
    ("result", .obj (ReviewStatus.fields.members response.result))])

/-- The document of a review, with the fields of the envelope in order. -/
def ConversionReview.document (review : ConversionReview) : Json :=
  .obj review.members

end HubSpoke
