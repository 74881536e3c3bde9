import HubSpoke.Json.Reader
import HubSpoke.Json.Text
import HubSpoke.Record.Fields

/-!
# Conversion reviews

A review asks for objects to be converted to a version, and its answer is a review too.  Reviews
are read from JSON values or from text.
-/

namespace HubSpoke

/-- What a review asks. -/
structure ConversionRequest where
  uid : String
  desiredVersion : String
  objects : List Json := []
deriving DecidableEq

namespace ConversionRequest

/-- The fields, in order. -/
def fields : Fields ConversionRequest ConversionRequest :=
  ConversionRequest.mk
    <$> .required "uid" .text ConversionRequest.uid
    <*> .required "desiredAPIVersion" .text ConversionRequest.desiredVersion
    <*> .shown "objects" (.list .json) [] ConversionRequest.objects

def codec : Codec ConversionRequest := .record "ConversionRequest" fields

end ConversionRequest

/-- How a batch ended. -/
structure ReviewStatus where
  status : String
  message : String := ""
deriving DecidableEq

namespace ReviewStatus

/-- The fields, in order. -/
def fields : Fields ReviewStatus ReviewStatus :=
  ReviewStatus.mk
    <$> .required "status" .text ReviewStatus.status
    <*> .text "message" ReviewStatus.message

def codec : Codec ReviewStatus := .record "ReviewStatus" fields

/-- The status of a batch that was converted. -/
def success : ReviewStatus := { status := "Success" }

/-- The status of a batch that was not. -/
def failure (message : String) : ReviewStatus := { status := "Failure", message }

/-- The batch was converted. -/
def isSuccess (s : ReviewStatus) : Bool := s.status = success.status

end ReviewStatus

/-- What a review answers. -/
structure ConversionResponse where
  uid : String
  convertedObjects : List Json := []
  result : ReviewStatus
deriving DecidableEq

namespace ConversionResponse

/-- The fields, in order. -/
def fields : Fields ConversionResponse ConversionResponse :=
  ConversionResponse.mk
    <$> .required "uid" .text ConversionResponse.uid
    <*> .shown "convertedObjects" (.list .json) [] ConversionResponse.convertedObjects
    <*> .required "result" ReviewStatus.codec ConversionResponse.result

def codec : Codec ConversionResponse := .record "ConversionResponse" fields

end ConversionResponse

/-- A review, with a request on the way in and a response on the way out. -/
structure ConversionReview where
  apiVersion : String
  kind : String
  request : Option ConversionRequest := none
  response : Option ConversionResponse := none
deriving DecidableEq

namespace ConversionReview

/-- The fields, in order. -/
def fields : Fields ConversionReview ConversionReview :=
  ConversionReview.mk
    <$> .required "apiVersion" .text ConversionReview.apiVersion
    <*> .required "kind" .text ConversionReview.kind
    <*> .optional "request" ConversionRequest.codec ConversionReview.request
    <*> .optional "response" ConversionResponse.codec ConversionReview.response

def codec : Codec ConversionReview := .record "ConversionReview" fields

end ConversionReview

end HubSpoke
