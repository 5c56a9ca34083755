import Catalogue.Domain
import Catalogue.Failure
import Catalogue.Text.Numeral

/-!
# Metrics

The program counts what it does. A counter has a name and labels, and only ever goes up.

* `Counter` -- everything that is counted, `Counter.name` -- how it is shown;
* `Metrics` -- the counts, `Metrics.raise` -- one more;
* `readDurationBounds` -- the bounds of the histogram of read times, in seconds.
-/

namespace Catalogue

/-- A thing that is counted. -/
inductive Counter where
  /-- Events that a transport accepted on a topic. -/
  | eventsPublished (topic : String)
  /-- Events that a transport refused on a topic. -/
  | publishFailures (topic : String)
  /-- Records of a topic that were processed. -/
  | eventsProcessed (topic : String)
  /-- Records of a topic whose processing failed. -/
  | eventsFailed (topic : String)
  /-- Reads of the composite view. -/
  | reads
  /-- Reads that went without the list of a domain. -/
  | degradedReads (domain : Domain)
  /-- Successful reads, whose duration was taken. -/
  | readDurations
  /-- Calls that found the pool full. -/
  | poolRejections
  /-- Calls to the service of a domain; a failed one under the label of its failure. -/
  | serviceCalls (domain : Domain) (outcome : Option FailureKind)
  /-- Creates that were accepted. -/
  | creates
  /-- Deletes that were accepted. -/
  | deletes
  deriving DecidableEq, Repr

/-- How the value of a label goes on; `held` says that a backslash is being held back. A backslash
    may already stand in front of what it escapes, so one is held back until it is known: it is
    dropped in front of a quote, and two in a row are one escaped backslash. A line break is escaped
    without regard to it. -/
def labelChars : Bool → List Char → List Char
  | held, [] => if held then ['\\', '\\'] else []
  | held, '\n' :: cs => '\\' :: 'n' :: labelChars held cs
  | _, '"' :: cs => '\\' :: '"' :: labelChars false cs
  | true, '\\' :: cs => '\\' :: '\\' :: labelChars false cs
  | false, '\\' :: cs => labelChars true cs
  | true, c :: cs => '\\' :: '\\' :: c :: labelChars false cs
  | false, c :: cs => c :: labelChars false cs

/-- A label's value between quotes. -/
def labelText (s : String) : String := "\"" ++ String.ofList (labelChars false s.toList) ++ "\""

/-- A name with labels. -/
def labelled (name : String) (labels : List (String × String)) : String :=
  match labels with
  | [] => name
  | labels =>
    name ++ "\x7b" ++ ",".intercalate (labels.map fun l => l.1 ++ "=" ++ labelText l.2) ++ "\x7d"

/-- How a counter is shown. -/
def Counter.name : Counter → String
  | .eventsPublished topic => labelled "events_published_total" [("topic", topic)]
  | .publishFailures topic => labelled "event_publish_failures_total" [("topic", topic)]
  | .eventsProcessed topic => labelled "consumer_events_processed_total" [("topic", topic)]
  | .eventsFailed topic => labelled "consumer_events_failed_total" [("topic", topic)]
  | .reads => "composite_reads_total"
  | .degradedReads domain => labelled "composite_degraded_reads_total" [("domain", domain.label)]
  | .readDurations => "composite_read_duration_seconds_count"
  | .poolRejections => "upstream_pool_rejections_total"
  | .serviceCalls domain outcome =>
    let outcome := match outcome with
      | none => "ok"
      | some kind => kind.label
    labelled "upstream_calls_total" [("domain", domain.label), ("outcome", outcome)]
  | .creates => labelled "composite_writes_total" [("operation", "create")]
  | .deletes => labelled "composite_writes_total" [("operation", "delete")]

/-- The upper bounds of the histogram of read times, in seconds. -/
def readDurationBounds : List String :=
  ["0.005", "0.01", "0.025", "0.05", "0.1", "0.25", "0.5", "1", "2", "5", "+Inf"]

/-- The counts that are not zero. -/
structure Metrics where
  counts : List (Counter × Nat)
  deriving DecidableEq, Repr

namespace Metrics

/-- Nothing counted yet. -/
def zero : Metrics := ⟨[]⟩

/-- How often a thing was counted. -/
def count (m : Metrics) (c : Counter) : Nat :=
  ((m.counts.find? fun p => p.1 == c).map Prod.snd).getD 0

/-- Adds to a count. -/
def add (c : Counter) (n : Nat) : List (Counter × Nat) → List (Counter × Nat)
  | [] => [(c, n)]
  | (d, k) :: rest => if d = c then (d, k + n) :: rest else (d, k) :: add c n rest

/-- Counts one thing once. -/
def raise (m : Metrics) (c : Counter) : Metrics := ⟨add c 1 m.counts⟩

/-- Counts several things, in order. -/
def raiseAll (m : Metrics) (cs : List Counter) : Metrics := cs.foldl raise m

/-- Counts one thing a number of times. -/
def raiseBy (m : Metrics) (c : Counter) (n : Nat) : Metrics :=
  if n = 0 then m else ⟨add c n m.counts⟩

/-- The counts as they are served, one on a line. -/
def exposition (m : Metrics) : String :=
  String.join (m.counts.map fun (c, n) => c.name ++ " " ++ decimalText n ++ "\n")

end Metrics

end Catalogue
