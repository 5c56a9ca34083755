import Catalogue.Entity.Creation
import Catalogue.Http.MediaType
import Catalogue.Http.Message
import Catalogue.Http.Problem
import Catalogue.Metrics
import Catalogue.Text.Hexadecimal

/-!
# The HTTP interface

Items are read, created and deleted by requests:

* `GET /aggregate/{itemId}` answers with the item, `POST /aggregate` accepts a create, and
  `DELETE /aggregate/{itemId}` a delete;
* `GET /health` says that the program runs, `GET /metrics` what it has counted.

`HEAD` is `GET` without the body. A path without a route is not found, and a route refuses the
methods it does not have. Every response may be read by pages of any origin, and every `OPTIONS`
request is answered with that.

* `Backend` -- what the interface needs of the program behind it;
* `Route` -- the paths; `itemIdOf` -- the item that a segment names; `createRequestOf` -- the
  request that a body holds;
* `respond` -- the response to a request.
-/

namespace Catalogue.Http

/-- The program behind the interface. -/
structure Backend (σ : Type) where
  read : ItemId → σ → Except Failure Aggregate × σ
  create : CreateRequest → σ → Except Failure Unit × σ
  delete : ItemId → σ → Except Failure Unit × σ
  count : Counter → σ → σ
  exposition : σ → String
  /-- What the reader of JSON texts adds at the end of its report of a body: the wording of broken
      grammar, and the line and the column. -/
  reportTail : Bytes → String

/-! ## 1. Routes -/

/-- What a path leads to. -/
inductive Route where
  | health
  | metrics
  | aggregates
  /-- The item that a segment names, as it is written. -/
  | aggregate (segment : String)
  deriving DecidableEq, Repr

/-- The front of the paths of items. -/
def aggregateFront : List Char := "/aggregate/".toList

/-- The route of a path, if there is one. A segment is not empty and holds no slash. -/
def Route.ofPath? (path : String) : Option Route :=
  if path = "/health" then some .health
  else if path = "/metrics" then some .metrics
  else if path = "/aggregate" then some .aggregates
  else
    let segment := path.toList.drop aggregateFront.length
    if path.toList.take aggregateFront.length = aggregateFront ∧ segment ≠ [] ∧ '/' ∉ segment then
      some (.aggregate (String.ofList segment))
    else none

/-- The methods that a route has, as a response names them. -/
def Route.methods : Route → String
  | .health => "GET,HEAD"
  | .metrics => "GET,HEAD"
  | .aggregates => "POST"
  | .aggregate _ => "GET,HEAD,DELETE"

/-! ## 2. What requests say -/

/-- The item that the decoded segment of a path names. It has to be a number of 64 bits first. -/
def itemIdOf (raw : String) : Except Problem ItemId :=
  match signed? (-9223372036854775808) 9223372036854775807 raw.toList with
  | none => .error ⟨.badRequest, "Type mismatch: itemId '" ++ raw ++ "' is not a number"⟩
  | some n =>
    match ItemId.ofInt n with
    | .ok item => .ok item
    | .error n => .error (.invalidItemId n)

/-- The longest body that is read, in bytes. -/
def maxBody : Nat := 2 * 1024 * 1024

/-- Why the body of a create is not read. -/
inductive BodyFault where
  | mediaType
  | tooLong
  /-- The report of the reader of JSON texts, with what it adds at the end. -/
  | json (fault : Json.Fault) (tail : String)
  deriving DecidableEq

/-- The wording of a body that is not read. The place of a value is named where the value does not
    fit, unless it is the whole body. -/
def BodyFault.message : BodyFault → String
  | .mediaType => "Expected request with \x60Content-Type: application/json\x60"
  | .tooLong => "Failed to buffer the request body: length limit exceeded"
  | .json (.mismatch path cause) tail =>
    "Failed to deserialize the JSON body into the target type: " ++
      (if path.isEmpty then "" else Json.pathText path ++ ": ") ++ cause.message ++ tail
  | .json .ungrammatical tail => "Failed to parse the request body as JSON" ++ tail
  | .json .unfinished tail => "Failed to parse the request body as JSON" ++ tail

/-- Whether a request says that its body is JSON. -/
def saysJson (r : Request) : Bool :=
  match (r.header? "content-type").bind MediaType.parse? with
  | some m => m.isJson
  | none => false

/-- The create that the body of a request holds. -/
def createRequestOf (tail : Bytes → String) (r : Request) : Except BodyFault CreateRequest :=
  if !saysJson r then .error .mediaType
  else if maxBody < r.body.length then .error .tooLong
  else match Json.Codec.createRequest.decode r.body with
    | .ok request => .ok request
    | .error fault => .error (.json fault (tail r.body))

/-! ## 3. Responses -/

/-- A response without a body. -/
def Response.bare (status : Status) : Response := ⟨status, [], []⟩

/-- A response with a JSON body. -/
def Response.json (status : Status) (body : Bytes) : Response :=
  ⟨status, [("content-type", "application/json")], body⟩

/-- A response with a body of plain text. -/
def Response.text (status : Status) (kind body : String) : Response :=
  ⟨status, [("content-type", kind)], bytesOf body⟩

/-- A response that reports a problem. -/
def Response.problem (p : Problem) (path : String) (now : Instant) : Response :=
  .json p.kind.status (p.body path now)

/-- A response with one more header. -/
def Response.withHeader (r : Response) (name value : String) : Response :=
  { r with headers := r.headers ++ [(name, value)] }

/-- A segment whose bytes are no text. -/
def Response.badSegment : Response :=
  .text .badRequest "text/plain; charset=utf-8"
    "Invalid URL: Invalid UTF-8 in \x60item_id\x60"

section

variable {σ : Type}

/-- Goes on with the item that a segment names, or reports that it names none. -/
def withItem (segment path : String) (now : Instant) (s : σ)
    (k : ItemId → Response × σ) : Response × σ :=
  match textOf? (percentDecoded (bytesOf segment)) with
  | none => (.badSegment, s)
  | some raw =>
    match itemIdOf raw with
    | .error p => (.problem p path now, s)
    | .ok item => k item

/-- The response to a read. -/
def readResponse (b : Backend σ) (segment path : String) (now : Instant) (s : σ) : Response × σ :=
  withItem segment path now s fun item =>
    match b.read item s with
    | (.ok a, s) => (.json .ok (Json.Codec.aggregate.encode a), s)
    | (.error f, s) => (.problem (.ofFailure f) path now, s)

/-- The response to a write that has ended: it is counted if it was accepted. -/
def writeResponse (b : Backend σ) (counter : Counter) (path : String) (now : Instant) :
    Except Failure Unit × σ → Response × σ
  | (.ok (), s) => (.bare .accepted, b.count counter s)
  | (.error f, s) => (.problem (.ofFailure f) path now, s)

/-- The response to a delete. -/
def deleteResponse (b : Backend σ) (segment path : String) (now : Instant) (s : σ) :
    Response × σ :=
  withItem segment path now s fun item => writeResponse b .deletes path now (b.delete item s)

/-- The response to a create. -/
def createResponse (b : Backend σ) (r : Request) (now : Instant) (s : σ) : Response × σ :=
  match createRequestOf b.reportTail r with
  | .error fault => (.problem ⟨.badRequest, fault.message⟩ r.path now, s)
  | .ok request => writeResponse b .creates r.path now (b.create request s)

/-- The response of a route; none for a method that it does not have. -/
def Route.respond? (route : Route) (b : Backend σ) (r : Request) (now : Instant) (s : σ) :
    Option (Response × σ) :=
  let reads := r.method = "GET" ∨ r.method = "HEAD"
  match route with
  | .health =>
    if reads then
      some (.json .ok (Json.writeObject [("status", Json.writeText "ok")]), s)
    else none
  | .metrics =>
    if reads then
      some (.text .ok "text/plain; version=0.0.4; charset=utf-8" (b.exposition s), s)
    else none
  | .aggregates => if r.method = "POST" then some (createResponse b r now s) else none
  | .aggregate segment =>
    if reads then some (readResponse b segment r.path now s)
    else if r.method = "DELETE" then some (deleteResponse b segment r.path now s)
    else none

/-- The response to a request, before it is opened to other origins. -/
def respondPlain (b : Backend σ) (r : Request) (now : Instant) (s : σ) : Response × σ :=
  match Route.ofPath? r.path with
  | none => (.bare .notFound, s)
  | some route =>
    match route.respond? b r now s with
    | some (response, s) =>
      (if r.method = "HEAD" then { response with body := [] } else response, s)
    | none => ((Response.bare .methodNotAllowed).withHeader "allow" route.methods, s)

/-- The response to an `OPTIONS` request: any method and any header will do. -/
def preflight (r : Request) : Response :=
  let open_ := ((Response.bare .ok).withHeader "access-control-allow-methods" "*").withHeader
    "access-control-allow-headers" "*"
  match Route.ofPath? r.path with
  | none => open_
  | some route => open_.withHeader "allow" route.methods

/-- The response to a request. -/
def respond (b : Backend σ) (r : Request) (now : Instant) (s : σ) : Response × σ :=
  let (response, s) := if r.method = "OPTIONS" then (preflight r, s) else respondPlain b r now s
  (response.withHeader "access-control-allow-origin" "*", s)

end

end Catalogue.Http
