import Catalogue.Http.Status
import Catalogue.Text.Case
import Catalogue.Text.Utf8

/-!
# Requests and responses

* `Request` -- a request: method, target, headers and body; `Request.path` -- its path as it is
  written, without the query;
* `Response` -- a response.
-/

namespace Catalogue.Http

/-- A request. -/
structure Request where
  method : String
  /-- The path, perhaps with a query behind a question mark, and perhaps with a scheme and a host in
      front of it. -/
  target : String
  headers : List (String × String)
  body : Bytes
  deriving DecidableEq, Repr

namespace Request

/-- What stands behind `://`, if that stands in a text. -/
def behindScheme? : List Char → Option (List Char)
  | [] => none
  | ':' :: '/' :: '/' :: rest => some rest
  | _ :: rest => behindScheme? rest

/-- The path, as it is written. A target that begins with a slash is a path, and so is the asterisk
    that stands for the server as a whole. Of any other target the path is what follows the scheme
    and the host; behind a scheme it is never empty. -/
def path (r : Request) : String :=
  let cs := r.target.toList.takeWhile fun c => c ≠ '?' && c ≠ '#'
  match cs with
  | '/' :: _ => String.ofList cs
  | ['*'] => "*"
  | _ =>
    match behindScheme? cs with
    | none => ""
    | some rest =>
      match rest.dropWhile (· ≠ '/') with
      | [] => "/"
      | path => String.ofList path

/-- The value of a header; case does not matter in its name. -/
def header? (r : Request) (name : String) : Option String :=
  (r.headers.find? fun h => lowerText h.1 = lowerText name).map Prod.snd

end Request

/-- A response. -/
structure Response where
  status : Status
  headers : List (String × String)
  body : Bytes
  deriving DecidableEq

end Catalogue.Http
