import Catalogue.Text.Blank
import Catalogue.Text.Case
import Catalogue.Text.Numeral

/-!
# Settings

The program is set up by named variables. A variable that is absent, or whose text is no number
where one is due, leaves the default in place; no text is an error.

* `Settings` -- all settings, `Settings.ofLookup` -- their values under a look-up of variables;
* `Endpoint` -- the base address and the time limit of a service, `Endpoint.url` -- the address of a
  path below it.

Every setting depends on its own variable only, but for the address that is reported: without a
variable of its own it is put together from the host's name and the socket number.
-/

namespace Catalogue

/-- Where a service is, and how long a call may take in milliseconds. -/
structure Endpoint where
  baseUrl : String
  timeout : Nat
  deriving DecidableEq, Repr

/-- The address of a path: slashes at the end of the base do not count. -/
def Endpoint.url (e : Endpoint) (path : String) : String :=
  String.ofList (e.baseUrl.toList.reverse.dropWhile (· == '/')).reverse ++ path

/-- How log lines are written. -/
inductive LogFormat where
  | text
  | json
  deriving DecidableEq, Repr

/-- All settings. -/
structure Settings where
  host : String
  /-- The number of the socket to listen on. -/
  socket : Nat
  logLevel : String
  logFormat : LogFormat
  serviceAddress : String
  product : Endpoint
  recommendation : Endpoint
  review : Endpoint
  /-- How many calls to services run at once. -/
  poolSize : Nat
  /-- How many more calls may wait. -/
  queueDepth : Nat
  eventPartitions : Nat
  deriving DecidableEq, Repr

namespace Settings

/-- The values of variables by name. -/
abbrev Lookup := String → Option String

/-- A setting of 64 bits; blanks around the number do not count. -/
def numberOr (lookup : Lookup) (name : String) (default_ : Nat) : Nat :=
  ((lookup name).bind fun s => unsigned? 18446744073709551616 (trim s.toList)).getD default_

/-- The socket number, of 16 bits; blanks around it are not allowed. -/
def socketOf (lookup : Lookup) : Nat :=
  ((lookup "PORT").bind fun s => unsigned? 65536 s.toList).getD 7000

/-- The log format a text names: `json` in any case, and plain text otherwise. -/
def logFormatOf (s : Option String) : LogFormat :=
  if s.map lowerText = some "json" then .json else .text

/-- The settings under a look-up of variables. -/
def ofLookup (lookup : Lookup) : Settings where
  host := (lookup "HOST").getD "0.0.0.0"
  socket := socketOf lookup
  logLevel := (lookup "RUST_LOG").getD "info"
  logFormat := logFormatOf (lookup "LOG_FORMAT")
  serviceAddress := (lookup "SERVICE_ADDRESS").getD
    ((lookup "HOSTNAME").getD "localhost" ++ ":" ++ decimalText (socketOf lookup))
  product :=
    ⟨(lookup "PRODUCT_SERVICE_URL").getD "http://product:8080",
      numberOr lookup "PRODUCT_TIMEOUT_MS" 2000⟩
  recommendation :=
    ⟨(lookup "RECOMMENDATION_SERVICE_URL").getD "http://recommendation:8080",
      numberOr lookup "RECOMMENDATION_TIMEOUT_MS" 2000⟩
  review :=
    ⟨(lookup "REVIEW_SERVICE_URL").getD "http://review:8080",
      numberOr lookup "REVIEW_TIMEOUT_MS" 2000⟩
  poolSize := numberOr lookup "UPSTREAM_POOL_SIZE" 10
  queueDepth := numberOr lookup "UPSTREAM_QUEUE_DEPTH" 100
  eventPartitions := numberOr lookup "EVENT_PARTITIONS" 2

/-- The address to listen on. -/
def bindAddress (s : Settings) : String := s.host ++ ":" ++ decimalText s.socket

end Settings

end Catalogue
