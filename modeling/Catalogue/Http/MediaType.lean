import Catalogue.Text.Case

/-!
# Media types

A media type is `type/subtype`, perhaps with parameters behind it. Only one question is asked of it:
whether a body of that type is JSON.

* `MediaType.parse?` -- the parts of a media type, and the check of its parameters;
* `MediaType.isJson` -- `application/json`, and `application` with the suffix `+json`.
-/

namespace Catalogue.Http

/-- The name of a format: the part before the last plus sign, and the part behind it. -/
structure MediaType where
  type : String
  subtype : String
  suffix : Option String
  deriving DecidableEq, Repr

namespace MediaType

/-- The characters of names and plain values. -/
def isToken (c : Char) : Bool := c.isAlphanum || "!#$%&'*+-.^_\x60|~".toList.contains c

/-- The characters between quotes. -/
def isQuotable (c : Char) : Bool := 32 ≤ c.toNat && c.toNat ≤ 126

/-- Where the parameters of a media type are being read. -/
inductive ParameterState where
  /-- Before a name, where blanks may stand. -/
  | start
  | name
  /-- Before a value. -/
  | equals
  | value
  /-- Between quotes. A quote at the front of the value is part of it. -/
  | quoted (isEmpty : Bool)
  /-- Behind a closing quote, where blanks may stand. -/
  | closed

/-- Whether a text can go on like this and end. -/
def parametersFrom : ParameterState → List Char → Bool
  | .start, [] => true
  | .name, [] => false
  | .equals, [] => true
  | .value, [] => true
  | .quoted _, [] => false
  | .closed, [] => true
  | .start, c :: cs =>
    if c = ' ' then parametersFrom .start cs else isToken c && parametersFrom .name cs
  | .name, c :: cs =>
    if c = '=' then parametersFrom .equals cs else isToken c && parametersFrom .name cs
  | .equals, c :: cs =>
    if c = '"' then parametersFrom (.quoted true) cs else isToken c && parametersFrom .value cs
  | .value, c :: cs =>
    if c = ';' then parametersFrom .start cs else isToken c && parametersFrom .value cs
  | .quoted isEmpty, c :: cs =>
    if c = '"' ∧ !isEmpty then parametersFrom .closed cs
    else isQuotable c && parametersFrom (.quoted false) cs
  | .closed, c :: cs =>
    if c = ' ' then parametersFrom .closed cs else c = ';' && parametersFrom .start cs

/-- The subtype and the suffix in the text between the slash and the parameters. A plus sign at the
    front does not count. -/
def splitSuffix (cs : List Char) : List Char × Option (List Char) :=
  let behind := cs.reverse.takeWhile (· ≠ '+')
  if cs.length ≤ behind.length + 1 then (cs, none)
  else (cs.take (cs.length - behind.length - 1), some behind.reverse)

/-- The media type a text names. -/
def parse? (s : String) : Option MediaType :=
  let cs := (lowerText s).toList
  let type := cs.takeWhile isToken
  match cs.dropWhile isToken with
  | '/' :: rest =>
    let format := rest.takeWhile isToken
    let parametersOk := match rest.dropWhile isToken with
      | [] => true
      | c :: parameters => c = ';' && parametersFrom .start parameters
    if type.isEmpty || (format.isEmpty && !(rest.isEmpty)) || !parametersOk then none
    else
      let (subtype, suffix) := splitSuffix format
      some ⟨String.ofList type, String.ofList subtype, suffix.map String.ofList⟩
  | _ => none

/-- Whether bodies of a type are JSON. -/
def isJson (m : MediaType) : Bool :=
  m.type == "application" && (m.subtype == "json" || m.suffix == some "json")

end MediaType

end Catalogue.Http
