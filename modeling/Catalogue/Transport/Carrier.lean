import Catalogue.Metrics
import Catalogue.Transport.Basic

/-!
# Carriers

Writes hand their events to a carrier: anything that takes a record on a topic and either accepts or
refuses it. What it does with it is its own business, kept in a state of its own.

* `Carrier` -- the interface; `Carrier.transport` -- the transport as a carrier;
* `Carrier.limited` -- a carrier in front of another that accepts a limited number of records on
  some topics;
* `Carrier.counted` -- a carrier that counts what another accepts and refuses.
-/

namespace Catalogue

/-- Something records are handed to. -/
structure Carrier (σ : Type) where
  publish : σ → (topic key : String) → (payload : Bytes) → Except Refusal Unit × σ

/-- A limit on a topic: how many more records are accepted, and why none is after that. -/
structure Quota where
  topic : String
  left : Nat
  reason : String
  deriving DecidableEq, Repr

namespace Carrier

variable {σ : Type}

/-- The transport. -/
def transport : Carrier Transport := ⟨Transport.publish⟩

/-- Uses up one place of a topic's limit, if the topic has one. -/
def spend (topic : String) : List Quota → Except Refusal (List Quota)
  | [] => .ok []
  | q :: rest =>
    if q.topic = topic then
      match q.left with
      | 0 => .error ⟨topic, q.reason⟩
      | left + 1 => .ok ({ q with left } :: rest)
    else (spend topic rest).map (q :: ·)

/-- Sets a topic's limit. -/
def setQuota (q : Quota) (quotas : List Quota) : List Quota :=
  q :: quotas.filter fun p => p.topic ≠ q.topic

/-- Refuses what is over a topic's limit, and passes on all else. -/
def limited (c : Carrier σ) : Carrier (List Quota × σ) where
  publish := fun (quotas, s) topic key payload =>
    match spend topic quotas with
    | .error r => (.error r, quotas, s)
    | .ok quotas =>
      let (result, s) := c.publish s topic key payload
      (result, quotas, s)

/-- Counts the records that are accepted and refused. -/
def counted (c : Carrier σ) : Carrier (Metrics × σ) where
  publish := fun (m, s) topic key payload =>
    let (result, s) := c.publish s topic key payload
    match result with
    | .ok () => (.ok (), m.raise (.eventsPublished topic), s)
    | .error r => (.error r, m.raise (.publishFailures topic), s)

end Carrier

end Catalogue
