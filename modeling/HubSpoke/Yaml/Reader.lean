import HubSpoke.FieldPath
import HubSpoke.Yaml.Token

/-!
# Reading YAML

A document is read as a JSON value by a machine with one step per token, which keeps the
collections still open, innermost first.  A block collection holds whatever starts at its column
and ends at the first token that stands further left; a list may stand at the very column of the
key it belongs to.  Collections in brackets end at their bracket.  A text without a document reads
as null, and what follows a complete document would be a second one, which is refused.

Anchors, tags and folded text blocks are not read.
-/

namespace HubSpoke.Yaml

/-- Why a text is not read. -/
inductive Fault where
  | malformed
  /-- A character that may not stand in a document, after so many octets. -/
  | controlCharacter (offset : Nat)
  | severalDocuments
  /-- A collection inside as many others as there may be. -/
  | tooDeep (place : Place)
  /-- A whole number that does not fit into 64 bits. -/
  | numberOutOfRange (path : FieldPath) (place : Place)
deriving DecidableEq, Repr

/-- Where something stands, as it is named in messages: lines and columns are counted from one, and
the start of the document goes without saying. -/
def Place.suffix (place : Place) : String :=
  if place = {} then ""
  else " at line " ++ toString (place.line + 1) ++ " column " ++ toString (place.column + 1)

def Fault.message : Fault → String
  | .malformed => "the text is no YAML that is read here"
  | .controlCharacter offset =>
      "control characters are not allowed" ++
        if offset = 0 then "" else " at position " ++ toString offset
  | .severalDocuments =>
      "deserializing from YAML containing more than one document is not supported"
  | .tooDeep place => "recursion limit exceeded" ++ place.suffix
  | .numberOutOfRange path place =>
      (if path.steps.isEmpty then "" else path.text ++ ": ") ++ "JSON number out of range" ++
        place.suffix

/-- The greatest number of collections inside each other. -/
def maxDepth : Nat := 128

/-- A collection still open, its last entry first. -/
inductive Frame where
  /-- A block list between items. -/
  | items (column : Nat) (done : List Json)
  /-- A block list after a dash. -/
  | item (column : Nat) (done : List Json)
  /-- A block map between members. -/
  | members (column : Nat) (done : List (String × Json))
  /-- A block map after a question mark. -/
  | naming (column : Nat) (done : List (String × Json))
  /-- A block map between a key after a question mark and its colon. -/
  | named (column : Nat) (done : List (String × Json)) (key : String)
  /-- A block map after a key and its colon. -/
  | member (column : Nat) (done : List (String × Json)) (key : String)
  /-- A list in brackets; an entry may come next when one is due. -/
  | flowItems (done : List Json) (isDue : Bool)
  /-- A map in brackets; an entry may come next when one is due. -/
  | flowMembers (done : List (String × Json)) (isDue : Bool)
  /-- A map in brackets after a key. -/
  | flowMember (done : List (String × Json)) (key : String)

namespace Frame

/-- A value may come next. -/
def isValueDue : Frame → Bool
  | .item .. | .member .. | .flowMember .. => true
  | .flowItems _ isDue => isDue
  | .items .. | .members .. | .naming .. | .named .. | .flowMembers .. => false

/-- The frame with the value that was due.  A key that was due is empty. -/
def fill : Frame → Json → Frame
  | .item column done, value => .items column (value :: done)
  | .member column done key, value | .named column done key, value =>
      .members column ((key, value) :: done)
  | .naming column done, value => .members column (("", value) :: done)
  | .flowItems done _, value => .flowItems (value :: done) false
  | .flowMember done key, value => .flowMembers ((key, value) :: done) false
  | frame, _ => frame

/-- The value of a collection that ends here; a value still due is null. -/
def value : Frame → Json
  | .items _ done | .flowItems done _ => .arr done.reverse
  | .item _ done => .arr (.null :: done).reverse
  | .members _ done | .flowMembers done _ => Json.ofMembers done.reverse
  | .naming _ done => Json.ofMembers (("", .null) :: done).reverse
  | .named _ done key | .member _ done key | .flowMember done key =>
      Json.ofMembers ((key, .null) :: done).reverse

/-- The step to the value that may come next. -/
def next? : Frame → Option FieldStep
  | .item _ done | .flowItems done _ => some (.index done.length)
  | .member _ _ key | .flowMember _ key => some (.field key)
  | .items .. | .members .. | .naming .. | .named .. | .flowMembers .. => none

/-- The bracket at the end of a list or a map closes the frame. -/
def isClosedBy (isMap : Bool) : Frame → Bool
  | .flowItems .. => !isMap
  | .flowMembers .. | .flowMember .. => isMap
  | .items .. | .item .. | .members .. | .naming .. | .named .. | .member .. => false

/-- A dash at a column belongs to the frame or to what it holds. -/
def admitsDash (column : Nat) : Frame → Bool
  | .items start _ | .members start _ | .member start _ _ => start ≤ column
  | .item start _ | .naming start _ | .named start _ _ => start < column
  | .flowItems .. | .flowMembers .. | .flowMember .. => true

/-- A key or a scalar at a column belongs to the frame or to what it holds. -/
def admits (column : Nat) : Frame → Bool
  | .members start _ => start ≤ column
  | .items start _ | .item start _ | .naming start _ | .named start _ _ | .member start _ _ =>
      start < column
  | .flowItems .. | .flowMembers .. | .flowMember .. => true

/-- A colon that stands alone at a column belongs to the frame or to what it holds. -/
def admitsColon (column : Nat) : Frame → Bool
  | .naming start _ | .named start _ _ => start ≤ column
  | frame => frame.admits column

end Frame

/-- The state of the machine. -/
structure Reader where
  /-- The collections still open. -/
  frames : List Frame := []
  /-- The value of the document once it is complete. -/
  root : Option Json := none
  /-- Dashes have announced the document. -/
  isAnnounced : Bool := false

namespace Reader

/-- Ends collections, innermost first, up to one that stays; `inner` is the one that just ended.
Where a value is still due and none can follow, it is null. -/
def unwindFrom (r : Reader) (stays : Frame → Bool) (inner : Option Json) : List Frame → Reader
  | [] => { r with frames := [], root := inner <|> r.root }
  | frame :: rest =>
      let frame := inner.elim frame frame.fill
      let settled := if stays frame then frame else frame.fill .null
      if stays settled then { r with frames := settled :: rest }
      else unwindFrom r stays (some settled.value) rest

/-- Ends the collections that do not stay. -/
def unwind (r : Reader) (stays : Frame → Bool) : Reader :=
  r.unwindFrom stays none r.frames

/-- Where the value that comes next belongs. -/
def path (r : Reader) : FieldPath :=
  ⟨r.frames.reverse.filterMap Frame.next?⟩

/-- The reader where a value is due, or why none may come next. -/
def due (r : Reader) : Except Fault Reader :=
  match r.frames with
  | [] => if r.root.isNone then .ok r else .error .severalDocuments
  | frame :: _ => if frame.isValueDue then .ok r else .error .malformed

/-- A value where one is due. -/
def put (r : Reader) (value : Json) : Except Fault Reader := do
  let r ← r.due
  match r.frames with
  | [] => return { r with root := some value }
  | frame :: rest => return { r with frames := frame.fill value :: rest }

/-- A collection opens where a value is due, if it is not too deep. -/
def openFrame (r : Reader) (place : Place) (frame : Frame) : Except Fault Reader := do
  let r ← r.due
  if r.frames.length < maxDepth then return { r with frames := frame :: r.frames }
  else .error (.tooDeep place)

def stepDash (r : Reader) (place : Place) : Except Fault Reader :=
  match r.frames with
  | .items column done :: rest =>
      if column = place.column then .ok { r with frames := .item column done :: rest }
      else .error .malformed
  | _ => r.openFrame place (.item place.column [])

/-- A question mark. -/
def stepQuestion (r : Reader) (place : Place) : Except Fault Reader :=
  match r.frames with
  | .members column done :: rest =>
      if column = place.column then .ok { r with frames := .naming column done :: rest }
      else .error .malformed
  | _ => r.openFrame place (.naming place.column [])

/-- A colon that stands alone. -/
def stepColon (r : Reader) (place : Place) : Except Fault Reader :=
  match r.frames with
  | .named column done key :: rest =>
      if column = place.column then .ok { r with frames := .member column done key :: rest }
      else .error .malformed
  | .naming column done :: rest =>
      if column = place.column then .ok { r with frames := .member column done "" :: rest }
      else .error .malformed
  | _ => do
      let _ ← r.due
      .error .malformed

/-- A key and its colon. -/
def stepKey (r : Reader) (place : Place) (name : String) : Except Fault Reader :=
  match r.frames with
  | .members column done :: rest =>
      if column = place.column then .ok { r with frames := .member column done name :: rest }
      else .error .malformed
  | .flowMembers done true :: rest => .ok { r with frames := .flowMember done name :: rest }
  | .flowMembers _ false :: _ | .flowItems .. :: _ => .error .malformed
  | _ => r.openFrame place (.member place.column [] name)

/-- A scalar, which is a key after a question mark. -/
def stepScalar (r : Reader) (place : Place) (scalar : Scalar) : Except Fault Reader :=
  match r.frames, scalar.value? with
  | .naming column done :: rest, _ =>
      .ok { r with frames := .named column done scalar.text :: rest }
  | _, some value => r.put value
  | _, none => do
      let r ← r.due
      .error (.numberOutOfRange r.path place)

/-- A bracket closes. -/
def close (r : Reader) (isMap : Bool) : Except Fault Reader :=
  match r.frames with
  | frame :: rest =>
      if frame.isClosedBy isMap then { r with frames := rest }.put frame.value
      else .error .malformed
  | [] => .error .malformed

/-- A comma between entries. -/
def stepComma (r : Reader) : Except Fault Reader :=
  match r.frames with
  | .flowItems done false :: rest => .ok { r with frames := .flowItems done true :: rest }
  | .flowMembers done false :: rest => .ok { r with frames := .flowMembers done true :: rest }
  | .flowMember done key :: rest =>
      .ok { r with frames := .flowMembers ((key, .null) :: done) true :: rest }
  | _ => .error .malformed

/-- The value of a document that ends here, where no bracket is still open; without anything in it,
it is null. -/
def document (r : Reader) : Except Fault Json :=
  if r.frames.any (fun frame => frame.isClosedBy true || frame.isClosedBy false) then
    .error .malformed
  else .ok ((r.unwind fun _ => false).root.getD .null)

/-- One token. -/
def step (r : Reader) : Token → Except Fault Reader
  | .dash place => (r.unwind (Frame.admitsDash place.column)).stepDash place
  | .question place => (r.unwind (Frame.admits place.column)).stepQuestion place
  | .colon place => (r.unwind (Frame.admitsColon place.column)).stepColon place
  | .key place name => (r.unwind (Frame.admits place.column)).stepKey place name
  | .scalar place scalar => (r.unwind (Frame.admits place.column)).stepScalar place scalar
  | .openList place =>
      (r.unwind (Frame.admits place.column)).openFrame place (.flowItems [] true)
  | .openMap place =>
      (r.unwind (Frame.admits place.column)).openFrame place (.flowMembers [] true)
  | .closeList => r.close false
  | .closeMap => r.close true
  | .comma => r.stepComma
  | .documentStart =>
      if r.frames.isEmpty ∧ r.root.isNone ∧ !r.isAnnounced then .ok { r with isAnnounced := true }
      else .error .severalDocuments
  | .documentEnd => return { root := some (← r.document) }
  | .unreadable => .error .malformed

end Reader

/-- The value that tokens spell. -/
def ofTokens (tokens : List Token) : Except Fault Json := do
  (← tokens.foldlM Reader.step {}).document

/-- The octets before the first character that may not stand in a document, if there is one. -/
def controlOffset? (text : String) : Option Nat :=
  if text.toList.all isAllowed then none
  else some (String.ofList (text.toList.takeWhile isAllowed)).utf8ByteSize

/-- The value a text spells. -/
def parse (text : String) : Except Fault Json :=
  match controlOffset? text with
  | some offset => .error (.controlCharacter offset)
  | none => ofTokens (tokens text)

end HubSpoke.Yaml
