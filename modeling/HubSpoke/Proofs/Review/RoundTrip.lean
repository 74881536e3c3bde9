import HubSpoke.Proofs.Conversion.Readable
import HubSpoke.Proofs.Conversion.RoundTrip
import HubSpoke.Proofs.Policy.Rendering
import HubSpoke.Proofs.Review.Handler

/-!
# Reviews there and back

The objects that a review converted to the spoke can be asked back.  Each of them is read again as
the spoke it was converted to, and that converts to the hub it came from.  Stashing makes an object
longer than the one it was made of, so one that is too long for the handler may come out of it; that
is all that can keep the second review from succeeding.
-/

namespace HubSpoke

/-! ## Objects -/

/-- The document of a converted hub is converted back to a document of that hub. -/
theorem Converter.exists_convertDocument_back [Json.FloatReading] {converter : Converter}
    {object : Json} {policy : Hub.Policy} {result : Converted AnyPolicy}
    (hserves : ∀ version, converter.serves version) (hfits : object.fits .whole Json.maxDepth)
    (hobject : AnyPolicy.ofJson object = .ok (.hub policy))
    (hresult : converter.convertDocument object ApiVersion.v2.name = .ok result) :
    ∃ back, converter.convertDocument result.policy.toJson ApiVersion.v1.name = .ok back ∧
      AnyPolicy.ofJson back.policy.toJson = AnyPolicy.ofJson object := by
  obtain ⟨version, source, hversion, hsource, hconvert⟩ := convertDocument_eq_ok_iff.mp hresult
  obtain rfl := Except.ok.inj ((resolve_name (hserves .v2)).symm.trans hversion)
  obtain rfl := Except.ok.inj (hobject.symm.trans hsource)
  have hhub : Hub.Policy.codec.Reads policy := ⟨object, AnyPolicy.decode_of_ofJson hobject⟩
  rcases convert_cases hconvert nofun with ⟨_, down, heq, hdown, rfl⟩ | ⟨_, _, heq, -⟩
  · obtain rfl := AnyPolicy.hub.inj heq
    have hspoke := @AnyPolicy.ofJson_toJson (.spoke down.policy)
      (Hub.Policy.reads_convert hhub hdown)
    obtain ⟨up, hup, rfl⟩ :=
      Hub.Policy.exists_convert_back (AnyPolicy.hub_readsIn hfits hobject) hdown
    refine ⟨{ policy := .hub up.policy, restored := up.restored, stashed := up.stashed }, ?_, ?_⟩
    · refine convertDocument_eq_ok_iff.mpr ⟨_, _, resolve_name (hserves .v1), hspoke, ?_⟩
      simp [convert, hserves, hup, Except.map, Except.mapError]
    · rw [hobject]
      exact @AnyPolicy.ofJson_toJson (.hub up.policy) hhub
  · cases heq

/-! ## Reviews -/

namespace ReviewHandler

variable {handler : ReviewHandler} {request : ConversionRequest}

/-- A converted batch of hubs is converted back, unless one of its documents is too long. -/
theorem exists_convertBatch_back [Json.FloatReading]
    (hserves : ∀ version, handler.converter.serves version)
    (hobjects : ∀ object ∈ request.objects, object.fits .whole Json.maxDepth ∧
      ∃ policy, AnyPolicy.ofJson object = .ok (.hub policy))
    (hdesired : request.desiredVersion = ApiVersion.v2.name)
    {converted : List (Converted AnyPolicy)}
    (hconverted : handler.convertBatch request = .ok converted) (back : ConversionRequest)
    (hdesiredBack : back.desiredVersion = ApiVersion.v1.name)
    (hback : back.objects = converted.map fun result => result.policy.toJson) :
    ∃ restored : List (Converted AnyPolicy),
      (handler.convertBatch back = .ok restored ↔
        ∀ object ∈ back.objects, object.compactSize ≤ handler.limits.maxObjectBytes) ∧
      (restored.map fun result => AnyPolicy.ofJson result.policy.toJson) =
        request.objects.map AnyPolicy.ofJson := by
  obtain ⟨hcount, -, hpairs⟩ := convertBatch_eq_ok_iff.mp hconverted
  rw [hdesired] at hpairs
  have hpair (object : Json) (down : Converted AnyPolicy) (h : (object.fits .whole Json.maxDepth ∧
      ∃ policy, AnyPolicy.ofJson object = .ok (.hub policy)) ∧
        handler.Converts ApiVersion.v2.name object down) :
      ∃ up : Converted AnyPolicy,
        AnyPolicy.ofJson up.policy.toJson = AnyPolicy.ofJson object ∧
        handler.converter.convertDocument down.policy.toJson ApiVersion.v1.name = .ok up := by
    obtain ⟨⟨hfits, policy, hobject⟩, -, hdown⟩ := h
    obtain ⟨up, hup, hsame⟩ := Converter.exists_convertDocument_back hserves hfits hobject hdown
    exact ⟨up, hsame, hup⟩
  obtain ⟨restored, hsame, hrestored⟩ :=
    List.exists_between ((List.forall₂_and_left _ _).mpr ⟨hobjects, hpairs⟩) hpair
  refine ⟨restored, ?_, ?_⟩
  · -- the version is served and there are as many objects as before, so only sizes are in question
    have hsizes : List.Forall₂ (handler.Converts ApiVersion.v1.name)
        (converted.map fun result => result.policy.toJson) restored ↔
          ∀ down ∈ converted,
            down.policy.toJson.compactSize ≤ handler.limits.maxObjectBytes := by
      rw [List.forall₂_map_left_iff]
      exact (List.forall₂_and_left _ _).trans (and_iff_left hrestored)
    have hlength : converted.length = request.objects.length := hpairs.length_eq.symm
    rw [convertBatch_eq_ok_iff, hdesiredBack, hback, hsizes]
    simp [hlength, hcount, Converter.resolve_name (hserves .v1)]
  · rw [← List.forall₂_eq_eq_eq, List.forall₂_map_left_iff, List.forall₂_map_right_iff]
    exact hsame.flip

/-- A review to the spoke, all of whose objects are hubs without floats, succeeded, and another
review asks its objects back. -/
structure AsksBack [Json.FloatReading] (handler : ReviewHandler)
    (there back : ConversionReview) (request asked : ConversionRequest) : Prop where
  requested : there.request = some request
  desired : request.desiredVersion = "kyverno.io/v2"
  hubs : ∀ object ∈ request.objects, object.fits .whole Json.maxDepth ∧
    ∃ policy, AnyPolicy.ofJson object = .ok (.hub policy)
  requestedBack : back.request = some asked
  desiredBack : asked.desiredVersion = "kyverno.io/v1"
  answered : ∃ answer response, handler.handle there = .ok answer ∧
    answer.review.response = some response ∧ response.result.isSuccess ∧
    asked.objects = response.convertedObjects

/-! ### Given reviews -/

theorem serves_ofSize (maxObjectBytes : Nat) (version : ApiVersion) :
    (ofSize maxObjectBytes).converter.serves version := by
  cases version <;> rfl

/-- A request to convert an object to the spoke. -/
def requestThere (object : Json) : ConversionRequest :=
  { uid := "there", desiredVersion := "kyverno.io/v2", objects := [object] }

variable (handler : ReviewHandler) (object : Json)

/-- A request to convert back what the handler converted an object to. -/
def requestBack [Json.FloatReading] : ConversionRequest where
  uid := "back"
  desiredVersion := "kyverno.io/v1"
  objects := (handler.respond (requestThere object)).1.convertedObjects

variable {handler object}

theorem handle_asking [Json.FloatReading] (request : ConversionRequest) :
    ∃ answer, handler.handle (asking request) = .ok answer ∧
      answer.review.response = some (handler.respond request).1 :=
  handle_response_iff.mpr ⟨request, rfl, rfl⟩

theorem asksBack_requestBack [Json.FloatReading] (hfits : object.fits .whole Json.maxDepth)
    (hobject : object.hubConverts fun _ _ => true)
    (hsuccess : (handler.respond (requestThere object)).1.result.isSuccess) :
    handler.AsksBack (asking (requestThere object)) (asking (handler.requestBack object))
      (requestThere object) (handler.requestBack object) := by
  obtain ⟨policy, _, hpolicy, -⟩ := Json.exists_of_hubConverts hobject
  obtain ⟨answer, hanswer, hresponse⟩ := handle_asking (requestThere object)
  exact ⟨rfl, rfl, List.forall_mem_singleton.mpr ⟨hfits, policy, hpolicy⟩, rfl, rfl,
    answer, _, hanswer, hresponse, hsuccess, rfl⟩

end ReviewHandler

theorem Json.flaggedHub_fits : flaggedHub.fits .whole maxDepth := by decide +kernel

theorem Json.flaggedHub_converts : flaggedHub.hubConverts fun _ _ => true := by decide +kernel

/-! ### There and back -/

open ReviewHandler (ofSize requestThere asksBack_requestBack)

/-- The objects of a review to the spoke come back in order from a review to the hub that the same
handler answers, unless one became too long for it. -/
theorem review_round_trip [Json.FloatReading] {handler : ReviewHandler}
    {there back : ConversionReview} {request asked : ConversionRequest}
    (hserves : ∀ version, handler.converter.serves version)
    (h : handler.AsksBack there back request asked) :
    ∃ answer response, handler.handle back = .ok answer ∧
      answer.review.response = some response ∧
      (response.result.isSuccess ↔
        ∀ object ∈ asked.objects, object.compactSize ≤ handler.limits.maxObjectBytes) ∧
      (response.result.isSuccess →
        response.convertedObjects.map AnyPolicy.ofJson =
          request.objects.map AnyPolicy.ofJson) := by
  obtain ⟨answer, response, hanswer, hresponse, hsuccess, hobjects⟩ := h.answered
  obtain ⟨_, hrequest, rfl⟩ := ReviewHandler.handle_response_iff.mp ⟨answer, hanswer, hresponse⟩
  obtain rfl := Option.some.inj (h.requested.symm.trans hrequest)
  obtain ⟨converted, hconverted⟩ := ReviewHandler.isSuccess_respond_iff.mp hsuccess
  obtain ⟨restored, hrestored, hsame⟩ := ReviewHandler.exists_convertBatch_back hserves h.hubs
    h.desired hconverted asked h.desiredBack
    (hobjects.trans (ReviewHandler.convertedObjects_respond hconverted))
  obtain ⟨answer, hanswer, hresponse⟩ :=
    ReviewHandler.handle_response_iff.mpr ⟨asked, h.requestedBack, rfl⟩
  refine ⟨answer, _, hanswer, hresponse, ?_, fun hsuccess => ?_⟩
  · rw [ReviewHandler.isSuccess_respond_iff]
    constructor
    · rintro ⟨_, hbatch⟩ object hobject
      exact ReviewHandler.compactSize_le_of_convertBatch hbatch hobject
    · intro hsizes
      exact ⟨restored, hrestored.mpr hsizes⟩
  · obtain ⟨_, hbatch⟩ := ReviewHandler.isSuccess_respond_iff.mp hsuccess
    have hsizes := fun object => @ReviewHandler.compactSize_le_of_convertBatch _ _ _ _ hbatch object
    rw [ReviewHandler.convertedObjects_respond (hrestored.mpr hsizes), List.map_map]
    exact hsame

/-- The flag comes back from a handler that takes what it was stashed in. -/
theorem review_round_trip_flagged :
    ∃ there back request asked answer response,
      (ofSize 400).AsksBack there back request asked ∧ request.objects = [Json.flaggedHub] ∧
      (ofSize 400).handle back = .ok answer ∧ answer.review.response = some response ∧
      response.result.isSuccess ∧
      response.convertedObjects.map AnyPolicy.ofJson = [AnyPolicy.ofJson Json.flaggedHub] := by
  have hthere : ((ofSize 400).respond (requestThere Json.flaggedHub)).1.result.isSuccess := by
    decide +kernel
  have hasks := asksBack_requestBack Json.flaggedHub_fits Json.flaggedHub_converts hthere
  have hsizes : ∀ object ∈ ((ofSize 400).requestBack Json.flaggedHub).objects,
      object.compactSize ≤ 400 := by decide +kernel
  obtain ⟨answer, response, hanswer, hresponse, hsuccess, hsame⟩ :=
    review_round_trip (ReviewHandler.serves_ofSize 400) hasks
  have hback : response.result.isSuccess := hsuccess.mpr hsizes
  exact ⟨_, _, _, _, answer, response, hasks, rfl, hanswer, hresponse, hback, hsame hback⟩

/-- A hub of fewer than 200 octets is stashed whole, and what it is converted to has more. -/
theorem review_rejects_enlarged :
    ∃ there back request asked answer response,
      (∀ version, (ofSize 200).converter.serves version) ∧
      (ofSize 200).AsksBack there back request asked ∧ request.objects = [Json.flaggedHub] ∧
      (ofSize 200).handle back = .ok answer ∧ answer.review.response = some response ∧
      ¬response.result.isSuccess := by
  have hthere : ((ofSize 200).respond (requestThere Json.flaggedHub)).1.result.isSuccess := by
    decide +kernel
  have hasks := asksBack_requestBack Json.flaggedHub_fits Json.flaggedHub_converts hthere
  have hback :
      ¬((ofSize 200).respond ((ofSize 200).requestBack Json.flaggedHub)).1.result.isSuccess := by
    decide +kernel
  obtain ⟨answer, hanswer, hresponse⟩ :=
    ReviewHandler.handle_asking ((ofSize 200).requestBack Json.flaggedHub)
  exact ⟨_, _, _, _, answer, _, ReviewHandler.serves_ofSize 200, hasks, rfl, hanswer, hresponse,
    hback⟩

end HubSpoke
