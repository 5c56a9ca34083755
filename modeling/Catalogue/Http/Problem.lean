import Catalogue.Failure
import Catalogue.Http.Status
import Catalogue.Instant
import Catalogue.Item
import Catalogue.Json.Record

/-!
# Error responses

Every service of the system answers an error with a status and a JSON body of one shape, and reads
the other services' errors from it.

* `Problem` -- an error as the API reports it; `Problem.body` -- its response body;
* `ErrorInfo` -- what is read of such a body, whatever else it holds;
* `Failure.ofResponse` -- the failure a response stands for: 404 and 422 keep their meaning, every
  other status is unexpected, and the message is the body's own wherever it has one.
-/

namespace Catalogue

namespace Http

/-! ## 1. Reporting -/

/-- How a request failed. -/
inductive ProblemKind where
  /-- The request could not be read. -/
  | badRequest
  | notFound
  /-- The request was read and carries wrong values. -/
  | invalidInput
  | internal
  deriving DecidableEq, Repr

/-- The status that reports a kind of problem. -/
def ProblemKind.status : ProblemKind → Status
  | .badRequest => .badRequest
  | .notFound => .notFound
  | .invalidInput => .unprocessable
  | .internal => .internalError

/-- A failed request. -/
structure Problem where
  kind : ProblemKind
  message : String
  deriving DecidableEq, Repr

/-- A failed read or write, as a failed request. -/
def Problem.ofFailure (f : Failure) : Problem :=
  let kind := match f.kind with
    | .notFound => .notFound
    | .invalidInput => .invalidInput
    | .unexpected => .internal
  ⟨kind, f.message⟩

/-- A number that is no item id. -/
def Problem.invalidItemId (n : Int) : Problem := ⟨.invalidInput, ItemId.invalidText n⟩

/-- An instant with its offset spelled out. -/
def offsetStamp (i : Instant) : String := String.ofList (i.chars.dropLast ++ "+00:00".toList)

/-- The body that reports a problem with the request for `path`. -/
def Problem.body (p : Problem) (path : String) (now : Instant) : Bytes :=
  Json.writeObject
    [("timestamp", Json.writeText (offsetStamp now)),
     ("path", Json.writeText path),
     ("status", Json.writeInteger p.kind.status.code),
     ("error", Json.writeText p.kind.status.phrase),
     ("message", Json.writeText p.message)]

/-! ## 2. Reading another service's report -/

/-- What is read of an error body. -/
structure ErrorInfo where
  timestamp : Option String
  path : Option String
  status : Option Json.Value
  message : Option String
  deriving BEq

end Http

namespace Json

/-- The members of an error body. -/
def errorInfoFields := Fields.optional "timestamp" .null Codec.text <|
  .optional "path" .null Codec.text <|
  .optional "status" .null Codec.value <|
  .optional "message" .null Codec.text .nil

/-- What is read of an error body. -/
def Codec.errorInfo : Codec Http.ErrorInfo :=
  Codec.record "HttpErrorInfo" errorInfoFields
    (fun (timestamp, path, status, message, ()) => ⟨timestamp, path, status, message⟩)
    (fun i => (i.timestamp, i.path, i.status, i.message, ()))

end Json

namespace Http

/-- The message of an error body, if it is one and has one. -/
def ErrorInfo.messageOf (body : Bytes) : Option String :=
  match Json.Codec.errorInfo.decode body with
  | .ok info => info.message
  | .error _ => none

end Http

/-- The failure that a response without success stands for. -/
def Failure.ofResponse (status : Http.Status) (body : Bytes) (fallback : String) : Failure :=
  let kind : FailureKind :=
    if status = .notFound then .notFound
    else if status = .unprocessable then .invalidInput
    else .unexpected
  ⟨kind, (Http.ErrorInfo.messageOf body).getD fallback⟩

end Catalogue
