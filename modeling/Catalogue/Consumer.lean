import Catalogue.Event
import Catalogue.Store
import Catalogue.Transport.Basic

/-!
# Consumers

A consumer takes the records of one partition and applies their events to a store, in the order of
their offsets. A record that fails is counted and passed over, and every record that was taken is
released from the transport.

* `ProcessingError` -- why a record fails;
* `StoreAccess` -- anything changes can be applied to, such as a store, or one that is offline;
* `applyEvent`, `processPayload` -- one event, and one record's payload;
* `Consumer` -- a topic, a partition and a position; `Consumer.handle` -- one record, by any way of
  processing payloads;
* `Consumer.poll` -- a whole poll: read, handle each record, release.
-/

namespace Catalogue

/-- Why a record fails. -/
inductive ProcessingError where
  /-- The payload is no event of the topic's entity. -/
  | malformed (fault : Json.Fault)
  /-- A create whose entity belongs to another item than its key says. -/
  | keyMismatch (key parent : Int)
  /-- The store refused the change. -/
  | store (reason : String)
  deriving DecidableEq

/-- An entity under the key of another item. -/
def keyMismatchText (key parent : Int) : String :=
  "Event key " ++ integerText key ++ " does not match entity parent " ++ integerText parent

/-- The wording of a failure. The text of a malformed record is worded only where it is grammatical
    and does not fit. -/
def ProcessingError.message : ProcessingError → String
  | .malformed (.mismatch _ cause) => "Malformed event: " ++ cause.message
  | .malformed .ungrammatical => "Malformed event: ungrammatical text"
  | .malformed .unfinished => "Malformed event: unfinished text"
  | .keyMismatch key parent => keyMismatchText key parent
  | .store reason => "Store error: " ++ reason

/-- Something changes are applied to; it may refuse them, for any reason at all. -/
structure StoreAccess (σ α : Type) where
  upsert : σ → α → Except ProcessingError Unit × σ
  deleteAll : σ → ItemId → Except ProcessingError Nat × σ

namespace StoreAccess

variable {σ α : Type}

/-- A store of this library, which refuses nothing. -/
def local_ [Entity α] : StoreAccess (Store α) α where
  upsert s a := (.ok (), s.upsert a)
  deleteAll s item := let (s, n) := s.deleteAll item; (.ok n, s)

/-- A store that is a part of something larger. -/
def within {ρ : Type} (get : ρ → σ) (set : σ → ρ → ρ) (a : StoreAccess σ α) : StoreAccess ρ α where
  upsert r x := let (result, s) := a.upsert (get r) x; (result, set s r)
  deleteAll r item := let (result, s) := a.deleteAll (get r) item; (result, set s r)

/-- A store that refuses every change. -/
def offline : StoreAccess σ α where
  upsert s _ := (.error (.store "store offline"), s)
  deleteAll s _ := (.error (.store "store offline"), s)

end StoreAccess

section

variable {σ α : Type} [Entity α]

/-- Applies an event: a create puts its entity into the store, a delete removes all entities of the
    item. -/
def applyEvent (access : StoreAccess σ α) (e : ChangeEvent α) (s : σ) :
    Except ProcessingError Unit × σ :=
  match e.action with
  | .create a =>
    if Entity.itemId a = e.key then access.upsert s a
    else (.error (.keyMismatch e.key.val (Entity.itemId a).val), s)
  | .delete =>
    match access.deleteAll s e.key with
    | (.ok _, s) => (.ok (), s)
    | (.error refusal, s) => (.error refusal, s)

/-- Decodes a record's payload and applies its event. -/
def processPayload (entity : Json.Codec α) (access : StoreAccess σ α) (payload : Bytes) (s : σ) :
    Except ProcessingError Unit × σ :=
  match (Json.Codec.changeEvent entity).decode payload with
  | .error fault => (.error (.malformed fault), s)
  | .ok e => applyEvent access e s

end

/-- A way of processing payloads. -/
abbrev Processing (σ : Type) := Bytes → σ → Except ProcessingError Unit × σ

/-- How many records of a poll were applied, and how many failed. -/
structure PollSummary where
  applied : Nat
  failed : Nat
  deriving DecidableEq, Repr

/-- A consumer: its partition, and the offset of the next record it takes. -/
structure Consumer where
  topic : String
  partition : Nat
  position : Nat
  deriving DecidableEq, Repr

/-- How a position is shown. -/
def positionText (offset : Nat) : String := "offset(" ++ decimalText offset ++ ")"

namespace Consumer

variable {σ : Type}

/-- Handles one record: the position moves past it whether it is applied or fails. -/
def handle (process : Processing σ) (r : Record) (st : Consumer × PollSummary × σ) :
    Consumer × PollSummary × σ :=
  let (c, summary, s) := st
  let (result, s) := process r.payload s
  let summary := match result with
    | .ok () => { summary with applied := summary.applied + 1 }
    | .error _ => { summary with failed := summary.failed + 1 }
  ({ c with position := r.offset + 1 }, summary, s)

/-- Handles records one after another. -/
def handleAll (process : Processing σ) :
    List Record → Consumer × PollSummary × σ → Consumer × PollSummary × σ
  | [], st => st
  | r :: rs, st => handleAll process rs (handle process r st)

/-- A poll: the records from the position on are handled and released. -/
def poll (process : Processing σ) (c : Consumer) (t : Transport) (s : σ) :
    Consumer × PollSummary × Transport × σ :=
  let records := t.read c.topic c.partition c.position
  let (c, summary, s) := handleAll process records (c, ⟨0, 0⟩, s)
  let t := if records.isEmpty then t else (t.commit c.topic c.partition c.position).1
  (c, summary, t, s)

end Consumer

end Catalogue
