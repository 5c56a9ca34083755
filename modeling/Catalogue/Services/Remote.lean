import Catalogue.Http.Problem
import Catalogue.Http.Url
import Catalogue.Reading
import Catalogue.Settings

/-!
# Services over the network

The services of the three domains answer requests for addresses below their endpoints. Every call is
one request, perhaps sent on a few times, and takes no longer than the endpoint allows.

* `Network` -- what comes back for a request, as a function of the address;
* `Fetched` -- what a request ended with, `Web` -- what each one ends with;
* `Network.fetch` -- the web that a network makes;
* `RemoteService.result` -- how an end reads as an answer or a failure;
* `RemoteServices` -- the three endpoints, `RemoteServices.calls` -- the calls a read makes.

An answer with a status of success counts if its whole body decodes; any other status is a failure
that the body words, or else the status and the address do.
-/

namespace Catalogue

open Http (Status Url)

/-- What comes back for a request. -/
inductive Reply where
  /-- A response: its status, the address it points to, and its body, which may break off. -/
  | response (status : Status) (location : Option String) (body : Bytes) (whole : Bool)
  /-- The connection ends before a response. -/
  | closed
  /-- Nothing comes back. -/
  | silent

/-- What comes back for a request, by the address in normal form. -/
abbrev Network := String → Reply

/-- What a request ended with. -/
inductive Fetched where
  | response (status : Status) (body : Bytes) (whole : Bool)
  /-- There is no response, and why. -/
  | failed (reason : String)

/-- What a request ends with, and how long that takes, by the time it is given and the address. -/
abbrev Web := Nat → String → Fetched × Nat

namespace Network

/-- How often a request is sent on. -/
def maxHops : Nat := 10

/-- Whether a status sends a request on to the address that the response points to. -/
def sendsOn (s : Status) : Bool := [301, 302, 303, 307, 308].contains s.code

/-- A request for an address, with the number of times that it may still be sent on, and the time
    that it takes when nothing comes back. An address that no request can be sent to is followed
    only to its failure. -/
def request (n : Network) (timeout : Nat) : Nat → Url → Fetched × Nat
  | hops, url =>
    let failed : Fetched := .failed ("error sending request for url (" ++ url.text ++ ")")
    match n ({ url with fragment := none }.text) with
    | .closed => (failed, 0)
    | .silent => (failed, timeout)
    | .response status location body whole =>
      match if sendsOn status then location.bind url.join? else none with
      | none => (.response status body whole, 0)
      | some next =>
        match hops with
        | 0 => (.failed ("error following redirect for url (" ++ url.text ++ ")"), 0)
        | hops + 1 =>
          if next.isSendable then request n timeout hops next
          else (.failed ("builder error for url (" ++ next.text ++ ")"), 0)

/-- A request for the address a text denotes. -/
def fetch (n : Network) : Web := fun timeout address =>
  match (Url.parse? address).map Url.withoutUser with
  | none => (.failed "builder error", 0)
  | some url =>
    if url.isSendable then n.request timeout maxHops url
    else (.failed ("builder error for url (" ++ url.text ++ ")"), 0)

end Network

namespace RemoteService

/-- The failure text of a response whose body does not word one. -/
def fallback (status : Status) (address : String) : String :=
  decimalText status.code ++ " " ++ status.phrase ++ " from GET " ++ address

/-- How the end of a request for an address reads. -/
def result {α : Type} (entity : Json.Codec α) (address : String) : Fetched → Except Failure α
  | .failed reason => .error ⟨.unexpected, reason⟩
  | .response status body whole =>
    if status.isSuccess then
      let decoded := if whole then entity.decode body else .error .unfinished
      match decoded with
      | .ok a => .ok a
      | .error _ => .error ⟨.unexpected, "error decoding response body"⟩
    else
      let body := if whole then bytesOf (lossyText body) else []
      .error (Failure.ofResponse status body (fallback status address))

/-- The label under which a result is counted. -/
def outcome {α : Type} : Except Failure α → Option FailureKind
  | .ok _ => none
  | .error f => some f.kind

/-- A call of a domain's service for a path below its endpoint. -/
def call {α : Type} (web : Web) (domain : Domain) (endpoint : Endpoint)
    (entity : Json.Codec α) (path : String) : Call α :=
  let address := endpoint.url path
  let (fetched, delay) := web endpoint.timeout address
  let r := result entity address fetched
  ⟨delay, r, [.serviceCalls domain (outcome r)]⟩

end RemoteService

/-- The services of the three domains on the web. -/
structure RemoteServices where
  web : Web
  product : Endpoint
  recommendation : Endpoint
  review : Endpoint

namespace RemoteServices

/-- The services at the endpoints of the settings. -/
def ofSettings (web : Web) (s : Settings) : RemoteServices :=
  ⟨web, s.product, s.recommendation, s.review⟩

/-- The calls of a read. -/
def calls (s : RemoteServices) (item : ItemId) : ItemCalls where
  product := RemoteService.call s.web .product s.product Json.Codec.product
    ("/product/" ++ decimalText item.val)
  recommendations := RemoteService.call s.web .recommendation s.recommendation
    Json.Codec.recommendation.list ("/recommendation?productId=" ++ decimalText item.val)
  reviews := RemoteService.call s.web .review s.review Json.Codec.review.list
    ("/review?productId=" ++ decimalText item.val)

end RemoteServices

end Catalogue
