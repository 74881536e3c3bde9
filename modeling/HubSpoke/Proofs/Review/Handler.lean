import HubSpoke.Proofs.Policy.Document
import HubSpoke.Review.Handler

/-!
# What answering a review does

A batch is converted when there are not too many objects, the version asked for is served, and every
object is small enough and converts.  The lemmas here say so of each step, so that no later proof
opens the handler.
-/

namespace HubSpoke

namespace Converter

variable {converter : Converter}

theorem resolve_name {version : ApiVersion} (h : converter.serves version) :
    converter.resolve version.name = .ok version := by
  have hserved : (some version).filter converter.serves = some version := by
    rw [Option.filter, if_pos h]
  rw [resolve, ApiVersion.ofName?_name, hserved]

theorem convertDocument_eq_ok_iff [Json.FloatReading] {document : Json} {desired : String}
    {result : Converted AnyPolicy} :
    converter.convertDocument document desired = .ok result ↔
      ∃ version source, converter.resolve desired = .ok version ∧
        AnyPolicy.ofJson document = .ok source ∧ converter.convert source version = .ok result := by
  simp only [convertDocument, Except.bind_eq_ok_iff, Except.mapError_eq_ok_iff]
  constructor
  · rintro ⟨version, hversion, source, hsource, hresult⟩
    exact ⟨version, source, hversion, hsource, hresult⟩
  · rintro ⟨version, source, hversion, hsource, hresult⟩
    exact ⟨version, hversion, source, hsource, hresult⟩

end Converter

namespace ReviewHandler

variable [Json.FloatReading] {handler : ReviewHandler} {desired : String}

/-- An object is small enough, and is converted. -/
def Converts (handler : ReviewHandler) (desired : String) (object : Json)
    (result : Converted AnyPolicy) : Prop :=
  object.compactSize ≤ handler.limits.maxObjectBytes ∧
    handler.converter.convertDocument object desired = .ok result

theorem convertObject_eq_ok_iff {position : Nat} {object : Json} {result : Converted AnyPolicy} :
    handler.convertObject desired position object = .ok result ↔
      handler.Converts desired object result := by
  simp only [convertObject, Converts]
  split
  case isTrue hlarge => simp [Nat.not_le.mpr hlarge]
  case isFalse hsmall => simp [Nat.not_lt.mp hsmall, Except.mapError_eq_ok_iff]

theorem convertObject_eq_error_iff {position : Nat} {object : Json} {e : BatchError} :
    handler.convertObject desired position object = .error e ↔
      (handler.limits.maxObjectBytes < object.compactSize ∧
        .tooLarge position object.compactSize handler.limits.maxObjectBytes = e) ∨
      (object.compactSize ≤ handler.limits.maxObjectBytes ∧ ∃ cause,
        handler.converter.convertDocument object desired = .error cause ∧
          .object position cause = e) := by
  simp only [convertObject]
  split
  case isTrue hlarge => simp [hlarge, Nat.not_le.mpr hlarge]
  case isFalse hsmall => simp [hsmall, Nat.not_lt.mp hsmall, Except.mapError_eq_error_iff]

/-- With not too many objects and a version that is served, what is left are the objects. -/
theorem convertBatch_of_served {request : ConversionRequest} {version : ApiVersion}
    (hfew : request.objects.length ≤ handler.limits.maxBatchObjects)
    (hserved : handler.converter.resolve request.desiredVersion = .ok version) :
    handler.convertBatch request = request.objects.zipIdx.mapM fun (object, position) =>
      handler.convertObject request.desiredVersion position object := by
  unfold convertBatch
  dsimp only
  rw [if_neg (Nat.not_lt.mpr hfew), hserved]
  rfl

theorem convertBatch_eq_ok_iff {request : ConversionRequest}
    {converted : List (Converted AnyPolicy)} :
    handler.convertBatch request = .ok converted ↔
      request.objects.length ≤ handler.limits.maxBatchObjects ∧
        (∃ version, handler.converter.resolve request.desiredVersion = .ok version) ∧
        List.Forall₂ (handler.Converts request.desiredVersion) request.objects converted := by
  unfold convertBatch
  dsimp only
  split
  case isTrue hmany =>
    simp [Nat.not_le.mpr hmany, throw, throwThe, MonadExceptOf.throw, bind, Except.bind]
  case isFalse hfew =>
    simp only [Except.bind_eq_ok_iff, Except.mapError_eq_ok_iff, exists_and_right,
      Nat.not_lt.mp hfew, true_and]
    refine and_congr_right fun _ => ?_
    exact Except.mapM_zipIdx_eq_ok_iff convertObject_eq_ok_iff

/-- No object of a converted batch is too long. -/
theorem compactSize_le_of_convertBatch {request : ConversionRequest}
    {converted : List (Converted AnyPolicy)} (h : handler.convertBatch request = .ok converted)
    {object : Json} (hobject : object ∈ request.objects) :
    object.compactSize ≤ handler.limits.maxObjectBytes := by
  obtain ⟨-, -, hpairs⟩ := convertBatch_eq_ok_iff.mp h
  obtain ⟨_, -, hsize, -⟩ := List.exists_of_forall₂_left hpairs hobject
  exact hsize

theorem respond_of_converted {request : ConversionRequest} {converted : List (Converted AnyPolicy)}
    (h : handler.convertBatch request = .ok converted) :
    handler.respond request = (
      { uid := request.uid
        convertedObjects := converted.map fun result => result.policy.toJson
        result := .success },
      { uid := request.uid
        desiredVersion := request.desiredVersion
        objectCount := request.objects.length
        convertedCount := converted.length
        restoredCount := converted.countP Converted.restored
        stashedCount := converted.countP Converted.stashed }) := by
  unfold respond
  rw [h]

theorem respond_of_error {request : ConversionRequest} {e : BatchError}
    (h : handler.convertBatch request = .error e) :
    handler.respond request = (
      { uid := request.uid, result := .failure e.message },
      { uid := request.uid
        desiredVersion := request.desiredVersion
        objectCount := request.objects.length
        outcome := .failure
        errorLabel := some e.label
        message := some e.message }) := by
  unfold respond
  rw [h]

/-- A request succeeds just when its batch is converted. -/
theorem isSuccess_respond_iff {request : ConversionRequest} :
    (handler.respond request).1.result.isSuccess ↔
      ∃ converted, handler.convertBatch request = .ok converted := by
  cases hbatch : handler.convertBatch request with
  | ok converted => simp [respond_of_converted hbatch, ReviewStatus.isSuccess]
  | error e =>
      simp [respond_of_error hbatch, ReviewStatus.isSuccess, ReviewStatus.success,
        ReviewStatus.failure]

theorem convertedObjects_respond {request : ConversionRequest}
    {converted : List (Converted AnyPolicy)} (h : handler.convertBatch request = .ok converted) :
    (handler.respond request).1.convertedObjects =
      converted.map fun result => result.policy.toJson := by
  rw [respond_of_converted h]

/-- A review is answered just when it holds a request, and with the response to it. -/
theorem handle_response_iff {review : ConversionReview} {response : ConversionResponse} :
    (∃ answer, handler.handle review = .ok answer ∧ answer.review.response = some response) ↔
      ∃ request, review.request = some request ∧ (handler.respond request).1 = response := by
  unfold handle
  cases review.request with
  | none => simp
  | some request => simp

/-- A review with a request is answered, and its event recorded. -/
theorem answer_of_request {m : Type → Type} [Monad m] (record : ReviewEvent → m Unit)
    {review : ConversionReview} {request : ConversionRequest}
    (h : review.request = some request) :
    handler.answer record review = do
      record (handler.respond request).2
      return .ok {
        apiVersion := review.apiVersion
        kind := "ConversionReview"
        response := some (handler.respond request).1 } := by
  unfold answer handle
  rw [h]

/-! ### Given reviews -/

/-- A handler of both versions that takes objects of up to some octets. -/
def ofSize (maxObjectBytes : Nat) : ReviewHandler where
  converter := .both
  limits := { maxBatchObjects := 256, maxObjectBytes }

/-- A review with a request. -/
def asking (request : ConversionRequest) : ConversionReview :=
  { apiVersion := "apiextensions.k8s.io/v1", kind := "ConversionReview", request := some request }

end ReviewHandler

end HubSpoke
