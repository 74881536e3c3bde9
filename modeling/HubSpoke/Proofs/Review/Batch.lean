import HubSpoke.Proofs.Conversion.Steps
import HubSpoke.Proofs.Review.Handler

/-!
# Whole batches

A batch that can be converted is converted object by object, in order, and its event counts what
was restored and stashed.  Of any other batch nothing is converted or counted.  If only its objects
are to blame, the message tells the first of them that is at fault, and that an object is too large
is told before anything else of it.
-/

namespace HubSpoke

theorem BatchError.message_tooLarge (position size limit : Nat) :
    (tooLarge position size limit).message = "cannot convert to requested version: " ++
      ("objects[" ++ toString position ++ "]: " ++
        (toString size ++ " bytes exceeds limit of " ++ toString limit)) := by
  unfold message
  dsimp only
  rw [@String.append_assoc _ _ (toString limit), @String.append_assoc _ (toString size),
    @String.append_assoc (toString size)]

namespace ReviewHandler

section

variable [Json.FloatReading]
variable {handler : ReviewHandler} {desired : String} {object : Json} {request : ConversionRequest}
variable {response : ConversionResponse} {event : ReviewEvent}

/-! ## Objects at fault -/

/-- What is told of an object that is too large, or else does not convert. -/
inductive Refuses (handler : ReviewHandler) (desired : String) (object : Json) : String → Prop
  | tooLarge (h : handler.limits.maxObjectBytes < object.compactSize) :
      Refuses handler desired object (toString object.compactSize ++ " bytes exceeds limit of " ++
        toString handler.limits.maxObjectBytes)
  | unconverted {cause : ConversionError}
      (hsize : object.compactSize ≤ handler.limits.maxObjectBytes)
      (hcause : handler.converter.convertDocument object desired = .error cause) :
      Refuses handler desired object cause.message

theorem Refuses.not_converts {reason : String} (h : handler.Refuses desired object reason)
    (result : Converted AnyPolicy) : ¬handler.Converts desired object result := by
  rintro ⟨hsmall, hresult⟩
  cases h with
  | tooLarge hlarge => omega
  | unconverted _ hcause => cases hcause.symm.trans hresult

/-- The same is told of an object each time. -/
theorem Refuses.unique {reason reason' : String} (h : handler.Refuses desired object reason)
    (h' : handler.Refuses desired object reason') : reason = reason' := by
  cases h with
  | tooLarge hlarge => cases h' with
      | tooLarge => rfl
      | unconverted hsmall => omega
  | unconverted hsmall hcause => cases h' with
      | tooLarge hlarge => omega
      | unconverted _ hcause' => rw [Except.error.inj (hcause.symm.trans hcause')]

theorem exists_refuses_of_convertObject {position : Nat} {e : BatchError}
    (h : handler.convertObject desired position object = .error e) :
    ∃ reason, handler.Refuses desired object reason ∧
      e.message = "cannot convert to requested version: " ++
        ("objects[" ++ toString position ++ "]: " ++ reason) := by
  rcases convertObject_eq_error_iff.mp h with ⟨hlarge, rfl⟩ | ⟨hsmall, cause, hcause, rfl⟩
  · exact ⟨_, .tooLarge hlarge, BatchError.message_tooLarge ..⟩
  · exact ⟨_, .unconverted hsmall hcause, rfl⟩

/-- The object at a position is at fault, and every one before it converts. -/
structure FirstRefused (handler : ReviewHandler) (request : ConversionRequest) (position : Nat)
    (reason : String) : Prop where
  refused : ∃ object, request.objects[position]? = some object ∧
    handler.Refuses request.desiredVersion object reason
  earlier : ∀ object ∈ request.objects.take position,
    ∃ result, handler.Converts request.desiredVersion object result

theorem FirstRefused.le {position position' : Nat} {reason reason' : String}
    (h : handler.FirstRefused request position reason)
    (h' : handler.FirstRefused request position' reason') : position' ≤ position := by
  obtain ⟨object, hobject, hrefused⟩ := h.refused
  by_contra hlt
  have hmem : object ∈ request.objects.take position' :=
    List.mem_of_getElem? ((List.getElem?_take_of_lt (Nat.not_le.mp hlt)).trans hobject)
  obtain ⟨result, hresult⟩ := h'.earlier object hmem
  exact hrefused.not_converts result hresult

/-- At most one object is the first at fault. -/
theorem FirstRefused.unique {position position' : Nat} {reason reason' : String}
    (h : handler.FirstRefused request position reason)
    (h' : handler.FirstRefused request position' reason') :
    position = position' ∧ reason = reason' := by
  obtain rfl : position = position' := Nat.le_antisymm (h'.le h) (h.le h')
  obtain ⟨object, hobject, hrefused⟩ := h.refused
  obtain ⟨object', hobject', hrefused'⟩ := h'.refused
  obtain rfl := Option.some.inj (hobject.symm.trans hobject')
  exact ⟨rfl, hrefused.unique hrefused'⟩

/-! ## Batches that can be converted -/

/-- There are not too many objects, the version asked for is served, and each object is small
enough and converts. -/
structure Convertible (handler : ReviewHandler) (request : ConversionRequest) : Prop where
  few : request.objects.length ≤ handler.limits.maxBatchObjects
  served : ∃ version, handler.converter.resolve request.desiredVersion = .ok version
  each : ∀ object ∈ request.objects,
    ∃ result, handler.Converts request.desiredVersion object result

theorem convertible_iff :
    handler.Convertible request ↔ ∃ converted, handler.convertBatch request = .ok converted := by
  constructor
  · intro h
    obtain ⟨converted, hconverted⟩ := List.exists_forall₂ h.each
    exact ⟨converted, convertBatch_eq_ok_iff.mpr ⟨h.few, h.served, hconverted⟩⟩
  · rintro ⟨converted, hconverted⟩
    obtain ⟨hfew, hserved, hpairs⟩ := convertBatch_eq_ok_iff.mp hconverted
    refine ⟨hfew, hserved, fun object hobject => ?_⟩
    obtain ⟨result, -, hresult⟩ := List.exists_of_forall₂_left hpairs hobject
    exact ⟨result, hresult⟩

/-- Where neither the count nor the version is to blame, the first object at fault is. -/
theorem exists_firstRefused {e : BatchError} (h : handler.convertBatch request = .error e)
    (hfew : request.objects.length ≤ handler.limits.maxBatchObjects) {version : ApiVersion}
    (hserved : handler.converter.resolve request.desiredVersion = .ok version) :
    ∃ position reason, handler.FirstRefused request position reason ∧
      e.message = "cannot convert to requested version: " ++
        ("objects[" ++ toString position ++ "]: " ++ reason) := by
  rw [convertBatch_of_served hfew hserved] at h
  obtain ⟨earlier, object, later, hsplit, hearlier, hfault⟩ :=
    Except.exists_first_of_mapM_zipIdx convertObject_eq_ok_iff h
  rw [Nat.zero_add] at hfault
  obtain ⟨reason, hreason, hmessage⟩ := exists_refuses_of_convertObject hfault
  refine ⟨earlier.length, reason, ⟨⟨object, ?_, hreason⟩, ?_⟩, hmessage⟩
  · rw [hsplit]; simp
  · rw [hsplit, List.take_left]
    exact hearlier

/-! ## Answers -/

/-- A response and an event tell that each object was converted, in order. -/
structure Succeeds (handler : ReviewHandler) (request : ConversionRequest)
    (response : ConversionResponse) (event : ReviewEvent) (converted : List (Converted AnyPolicy)) :
    Prop where
  inOrder : List.Forall₂ (handler.Converts request.desiredVersion) request.objects converted
  status : response.result.status = "Success"
  objects : response.convertedObjects = converted.map fun result => result.policy.toJson
  convertedCount : event.convertedCount = request.objects.length
  restoredCount : event.restoredCount = converted.countP fun result => result.restored
  stashedCount : event.stashedCount = converted.countP fun result => result.stashed

/-- A response and an event tell that nothing was converted, and why. -/
structure Fails (handler : ReviewHandler) (request : ConversionRequest)
    (response : ConversionResponse) (event : ReviewEvent) : Prop where
  status : response.result.status = "Failure"
  objects : response.convertedObjects = []
  convertedCount : event.convertedCount = 0
  restoredCount : event.restoredCount = 0
  stashedCount : event.stashedCount = 0
  message : event.message = some response.result.message
  first : request.objects.length ≤ handler.limits.maxBatchObjects →
    (∃ version, handler.converter.resolve request.desiredVersion = .ok version) →
    ∃ position reason, handler.FirstRefused request position reason ∧
      response.result.message = "cannot convert to requested version: " ++
        ("objects[" ++ toString position ++ "]: " ++ reason)

theorem exists_succeeds (h : handler.Convertible request) :
    ∃ converted, handler.Succeeds request (handler.respond request).1 (handler.respond request).2
      converted := by
  obtain ⟨converted, hconverted⟩ := convertible_iff.mp h
  obtain ⟨-, -, hpairs⟩ := convertBatch_eq_ok_iff.mp hconverted
  refine ⟨converted, ?_⟩
  rw [respond_of_converted hconverted]
  exact ⟨hpairs, rfl, rfl, hpairs.length_eq.symm, rfl, rfl⟩

theorem fails_respond (h : ¬handler.Convertible request) :
    handler.Fails request (handler.respond request).1 (handler.respond request).2 := by
  cases hbatch : handler.convertBatch request with
  | ok converted => exact absurd (convertible_iff.mpr ⟨converted, hbatch⟩) h
  | error e =>
      rw [respond_of_error hbatch]
      refine ⟨rfl, rfl, rfl, rfl, rfl, rfl, ?_⟩
      rintro hfew ⟨version, hserved⟩
      exact exists_firstRefused hbatch hfew hserved

end

/-! ### A given batch -/

/-- A request whose second object is longer than its first, and whose third is no policy. -/
def requestMixed : ConversionRequest where
  uid := "mixed"
  desiredVersion := "kyverno.io/v2"
  objects := [.policyDocument "kyverno.io/v1" [] [], .flaggedHub, .null]

/-- The first object just fits in 110 octets. -/
theorem firstRefused_requestMixed :
    (ofSize 110).FirstRefused requestMixed 1 "132 bytes exceeds limit of 110" where
  refused := by
    have hreason : toString Json.flaggedHub.compactSize ++ " bytes exceeds limit of " ++
        toString 110 = "132 bytes exceeds limit of 110" := by decide +kernel
    rw [← hreason]
    exact ⟨.flaggedHub, rfl, .tooLarge (by decide +kernel)⟩
  earlier := by
    have hconverts : (Converter.both.convertDocument (.policyDocument "kyverno.io/v1" [] [])
        "kyverno.io/v2").any fun _ => true := by decide +kernel
    obtain ⟨result, hresult, -⟩ := Except.any_iff.mp hconverts
    exact List.forall_mem_singleton.mpr ⟨result, by decide +kernel, hresult⟩

theorem resolve_requestMixed :
    (ofSize 110).converter.resolve requestMixed.desiredVersion = .ok .v2 := by decide +kernel

end ReviewHandler

/-- A review with a request is answered and recorded once, wherever events go.  The answer holds
all objects converted if the batch can be converted, and none otherwise. -/
theorem batch_converted_whole [Json.FloatReading] {handler : ReviewHandler}
    {review : ConversionReview} {request : ConversionRequest} (h : review.request = some request) :
    ∃ response event,
      (∀ {m : Type → Type} [Monad m] (record : ReviewEvent → m Unit),
        handler.answer record review = do
          record event
          return .ok {
            apiVersion := review.apiVersion
            kind := "ConversionReview"
            response := some response }) ∧
      (handler.Convertible request →
        ∃ converted, handler.Succeeds request response event converted) ∧
      (¬handler.Convertible request → handler.Fails request response event) := by
  refine ⟨(handler.respond request).1, (handler.respond request).2, ?_,
    ReviewHandler.exists_succeeds, ReviewHandler.fails_respond⟩
  intro m _ record
  exact ReviewHandler.answer_of_request record h

open ReviewHandler (ofSize asking requestMixed) in
/-- The object that is too large is told, and one event is left in the list of those recorded. -/
theorem batch_converted_whole_too_large :
    ∃ response event,
      ((ofSize 110).answer (m := StateM (List ReviewEvent))
        (fun event => modify fun events => events ++ [event]) (asking requestMixed)).run [] =
          (.ok {
            apiVersion := "apiextensions.k8s.io/v1"
            kind := "ConversionReview"
            response := some response }, [event]) ∧
      response.convertedObjects = [] ∧ event.convertedCount = 0 ∧
      event.message =
        some "cannot convert to requested version: objects[1]: 132 bytes exceeds limit of 110" := by
  obtain ⟨response, event, hrecord, -, hfails⟩ :=
    @batch_converted_whole _ (ofSize 110) (asking requestMixed) requestMixed rfl
  have hfirst := ReviewHandler.firstRefused_requestMixed
  have hfailed := hfails fun hconvertible => by
    obtain ⟨_, hobject, hrefused⟩ := hfirst.refused
    obtain ⟨result, hresult⟩ := hconvertible.each _ (List.mem_of_getElem? hobject)
    exact hrefused.not_converts result hresult
  obtain ⟨_, _, hrefused, hmessage⟩ :=
    hfailed.first (by decide) ⟨_, ReviewHandler.resolve_requestMixed⟩
  obtain ⟨rfl, rfl⟩ := hrefused.unique hfirst
  refine ⟨response, event, ?_, hfailed.objects, hfailed.convertedCount, ?_⟩
  · rw [hrecord]
    rfl
  · rw [hfailed.message, hmessage]
    decide +kernel

end HubSpoke
