import HubSpoke.Audit.Event
import HubSpoke.Config.Basic
import HubSpoke.Review.Text

/-!
# Answering reviews

A batch is converted as a whole or not at all.  It fails if it has too many objects, if the
version asked for is not served, or at its first object that is too large or does not convert.
Each answered review leaves one audit event.
-/

namespace HubSpoke

/-- The limits of a batch. -/
structure ReviewLimits where
  maxBatchObjects : Nat
  /-- The most octets of an object's compact text. -/
  maxObjectBytes : Nat
deriving DecidableEq

/-- What answers reviews. -/
structure ReviewHandler where
  converter : Converter
  limits : ReviewLimits
deriving DecidableEq

/-- Why a batch fails. -/
inductive BatchError where
  | tooManyObjects (count limit : Nat)
  | version (cause : ConversionError)
  | tooLarge (position size limit : Nat)
  | object (position : Nat) (cause : ConversionError)
deriving DecidableEq

namespace BatchError

/-- The label of an error in audit records. -/
def label : BatchError → String
  | .tooManyObjects .. => "batch_too_large"
  | .version cause => cause.label
  | .tooLarge .. => "object_too_large"
  | .object _ cause => cause.label

def message (e : BatchError) : String :=
  "cannot convert to requested version: " ++ match e with
    | .tooManyObjects count limit =>
        "batch of " ++ toString count ++ " objects exceeds limit of " ++ toString limit
    | .version cause => cause.message
    | .tooLarge position size limit =>
        "objects[" ++ toString position ++ "]: " ++ toString size ++
          " bytes exceeds limit of " ++ toString limit
    | .object position cause => "objects[" ++ toString position ++ "]: " ++ cause.message

end BatchError

/-- Why a review is not answered. -/
inductive ReviewError where
  | missingRequest
  | decode (fault : TextFault)
deriving DecidableEq

def ReviewError.message : ReviewError → String
  | .missingRequest => "conversion review has no request"
  | .decode fault => "failed to decode conversion review: " ++ fault.message

/-- An answered review and what is recorded of it. -/
structure ReviewAnswer where
  review : ConversionReview
  event : ReviewEvent

namespace ReviewHandler

/-- The handler a configuration describes. -/
def ofConfiguration (c : Configuration) : Except ConfigDefect ReviewHandler :=
  c.conversion.converter.map fun converter => {
    converter
    limits := {
      maxBatchObjects := c.conversion.maxBatchObjects.toNat
      maxObjectBytes := c.conversion.maxObjectBytes.toNat } }

variable [Json.FloatReading]

/-- Converts the object at a position. -/
def convertObject (handler : ReviewHandler) (desired : String) (position : Nat)
    (object : Json) : Except BatchError (Converted AnyPolicy) :=
  let size := object.compactSize
  if handler.limits.maxObjectBytes < size then
    .error (.tooLarge position size handler.limits.maxObjectBytes)
  else (handler.converter.convertDocument object desired).mapError (.object position)

/-- Converts every object of a request, or tells the first failure. -/
def convertBatch (handler : ReviewHandler) (request : ConversionRequest) :
    Except BatchError (List (Converted AnyPolicy)) := do
  let count := request.objects.length
  if handler.limits.maxBatchObjects < count then
    throw (.tooManyObjects count handler.limits.maxBatchObjects)
  let _ ← (handler.converter.resolve request.desiredVersion).mapError .version
  request.objects.zipIdx.mapM fun (object, position) =>
    handler.convertObject request.desiredVersion position object

/-- The response to a request and the event it leaves. -/
def respond (handler : ReviewHandler) (request : ConversionRequest) :
    ConversionResponse × ReviewEvent :=
  let event : ReviewEvent := {
    uid := request.uid
    desiredVersion := request.desiredVersion
    objectCount := request.objects.length }
  match handler.convertBatch request with
  | .ok converted =>
      ({ uid := request.uid
         convertedObjects := converted.map fun result => result.policy.toJson
         result := .success },
       { event with
         convertedCount := converted.length
         restoredCount := converted.countP Converted.restored
         stashedCount := converted.countP Converted.stashed })
  | .error e =>
      ({ uid := request.uid, result := .failure e.message },
       { event with
         outcome := .failure
         errorLabel := some e.label
         message := some e.message })

/-- Answers a review. -/
def handle (handler : ReviewHandler) (review : ConversionReview) :
    Except ReviewError ReviewAnswer :=
  match review.request with
  | none => .error .missingRequest
  | some request =>
      let (response, event) := handler.respond request
      .ok {
        review := {
          apiVersion := review.apiVersion
          kind := "ConversionReview"
          response := some response }
        event }

/-- Answers a review, and records what is to be recorded of it. -/
def answer {m : Type → Type} [Monad m] (handler : ReviewHandler) (record : ReviewEvent → m Unit)
    (review : ConversionReview) : m (Except ReviewError ConversionReview) := do
  match handler.handle review with
  | .error e => return .error e
  | .ok answer =>
      record answer.event
      return .ok answer.review

/-- Answers a review given as octets. -/
def handleOctets (handler : ReviewHandler) (octets : ByteArray) :
    Except ReviewError ReviewAnswer := do
  let review ← (ConversionReview.ofOctets octets).mapError .decode
  handler.handle review

end ReviewHandler

end HubSpoke
