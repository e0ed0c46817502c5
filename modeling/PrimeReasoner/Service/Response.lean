import PrimeReasoner.Json.Report
import PrimeReasoner.Service.Framework

/-!
# Responses of the service

* `Response` says how a request was answered.
* `Response.status` is the status code that goes with it, and `Response.body` the JSON value.
-/

namespace PrimeReasoner

/-- Something that went wrong inside of the service. -/
inductive InnerError where
  /-- A sentence could not be encoded. -/
  | encoding (error : EncodingError)
  /-- A question could not be decided. -/
  | deduction (error : DeductionError)
  /-- What was given could not be quoted in a complaint. -/
  | quoting (flaw : Flaw)

/-- The kind of an error, as it is told to the outside. -/
def InnerError.kind : InnerError → String
  | .encoding _ => "EncodingError"
  | .deduction _ => "ReasoningError"
  | .quoting .notFinite => "ValueError"
  | .quoting .torn => "UnicodeEncodeError"

/-- How a request was answered. -/
inductive Response where
  /-- What the service is. -/
  | about
  /-- The service is alive; how many facts and rules it holds. -/
  | health (facts rules : Nat)
  /-- What was learned, a line for every sentence, and how many facts and rules there are now. -/
  | learned (results : List String) (facts rules : Nat)
  /-- The answer to a question. -/
  | answered (answer : Answer)
  /-- What the service knows. -/
  | knowledge (summary : Summary)
  /-- How many requests there were, how many of them failed, and the figures of the session. -/
  | performance (requests errors : Nat) (figures : SessionFigures)
  /-- The text to learn from has no sentence in it. -/
  | noSentences
  /-- The request could not be handled. -/
  | failed (error : InnerError)
  /-- The framework answered by itself. -/
  | aside (kind : Aside)
  /-- The body could not be read. -/
  | unreadable
  /-- The body is not what it should be. -/
  | invalid (wanted : Wanted) (fault : BodyFault)

/-- The version of the service. -/
def serviceVersion : String := "1.0.0"

namespace BodyFault

/-- The kind of the fault. -/
def kind : BodyFault → String
  | .empty | .missing => "missing"
  | .unreadable | .notJson _ => "json_invalid"
  | .notObject => "model_attributes_type"
  | .notText => "string_type"
  | .tooShort => "string_too_short"
  | .tooLong => "string_too_long"
  | .blank => "value_error"

/-- Where the fault is. -/
def location (wanted : Wanted) : BodyFault → List Json
  | .empty | .unreadable | .notObject => [.string "body"]
  | .notJson offset => [.string "body", .nat offset]
  | _ => [.string "body", .string wanted.field]

/-- The fault in words. -/
def message (wanted : Wanted) : BodyFault → String
  | .empty | .missing => "Field required"
  | .unreadable => "There was an error parsing the body"
  | .notJson _ => "JSON decode error"
  | .notObject => "Input should be a valid dictionary or object to extract fields from"
  | .notText => "Input should be a valid string"
  | .tooShort => "String should have at least 1 character"
  | .tooLong => s!"String should have at most {wanted.maxLength} characters"
  | .blank => s!"Value error, {wanted.title} cannot be empty"

end BodyFault

namespace Aside

/-- The status code. -/
def status : Aside → Nat
  | .page => 200
  | .moved => 307
  | .notFound => 404
  | .notAllowed => 405

/-- The body, which is left out for pages. -/
def body : Aside → Json
  | .page | .moved => .null
  | .notFound => .object [("detail", .string "Not Found")]
  | .notAllowed => .object [("detail", .string "Method Not Allowed")]

end Aside

namespace Response

/-- The status code. -/
def status : Response → Nat
  | .about | .health .. | .learned .. | .answered _ | .knowledge _ | .performance .. => 200
  | .noSentences | .unreadable => 400
  | .invalid .. => 422
  | .failed _ => 500
  | .aside kind => kind.status

/-- The body of a response that reports a failure. -/
def failureBody (message code : String) (details : List (Json.Word × Json)) : Json := .object [
  ("error", .string message), ("error_code", .string code), ("details", .object details)]

/-- The body. -/
def body : Response → Json
  | .about => .object [
    ("name", .string "ELLM API"), ("version", .string serviceVersion),
    ("description", .string "Efficient Language and Logic Model"),
    ("docs", .string "/docs"), ("health", .string "/health")]
  | .health facts rules => .object [
    ("status", .string "healthy"), ("version", .string serviceVersion),
    ("facts_count", .nat facts), ("rules_count", .nat rules)]
  | .learned results facts rules => .object [
    ("results", .strings results), ("facts_count", .nat facts), ("rules_count", .nat rules)]
  | .answered answer => answer.json
  | .knowledge summary => summary.json
  | .performance requests errors figures => .object [
    ("request_count", .nat requests), ("error_count", .nat errors),
    ("session_stats", figures.json)]
  | .noSentences => failureBody "No sentences found in text" "INVALID_REQUEST" []
  | .failed error => failureBody "Internal server error" "INTERNAL_ERROR"
    [("exception_type", .string error.kind)]
  | .unreadable => .object [("detail", .string "There was an error parsing the body")]
  | .aside kind => kind.body
  | .invalid wanted fault => .object [("detail", .array [.object [
    ("type", .string fault.kind), ("loc", .array (fault.location wanted)),
    ("msg", .string (fault.message wanted))]])]

end Response

end PrimeReasoner
