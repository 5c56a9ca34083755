import Catalogue.Http.Api
import Catalogue.Propagation
import Catalogue.Reading

/-!
# The composite service

The composite service reads from the services of the three domains and hands the events of its
writes to a carrier. It knows neither where the services are nor what becomes of the events.

* `Composite` -- its address, its pool, its services and its carrier;
* `Composite.State` -- everything that changes;
* `Composite.read`, `Composite.readAll` -- reads; `Composite.create`, `Composite.delete` -- writes;
* `Composite.publish` -- the hand-over of one event;
* `Composite.backend` -- the service as the HTTP interface sees it.
-/

namespace Catalogue

/-- A composite service, with a carrier that has a state in `σ` and services that have one
    in `τ`. -/
structure Composite (σ τ : Type) where
  /-- The address that it reports. -/
  address : String
  limits : Pool.Limits
  carrier : Carrier σ
  /-- The calls of a read. -/
  calls : τ → ItemId → ItemCalls
  /-- What becomes of the services when product calls have run. -/
  called : τ → Nat → τ
  /-- What the reader of JSON texts adds at the end of its reports. -/
  reportTail : Bytes → String := fun _ => ""

/-- Everything that changes in and around a composite service. -/
structure Composite.State (σ τ : Type) where
  metrics : Metrics
  carrier : σ
  services : τ
  /-- The time that reads have taken so far, in milliseconds. -/
  clock : Nat

namespace Composite

variable {σ τ : Type}

/-- The state once reads that were started together are done. -/
def noted (c : Composite σ τ) (results : List Reading.Result) (s : State σ τ) : State σ τ :=
  { s with
    metrics := s.metrics.raiseAll (results.flatMap Reading.Result.counters)
    services := c.called s.services (results.countP Reading.Result.productRan)
    clock := s.clock + (results.map Reading.Result.time).foldr max 0 }

/-- Reads items together. -/
def readAll (c : Composite σ τ) (items : List ItemId) (s : State σ τ) :
    List Reading.Result × State σ τ :=
  let results := Reading.readAll c.limits c.address (items.map (c.calls s.services))
  (results, c.noted results s)

/-- Reads an item. -/
def read (c : Composite σ τ) (item : ItemId) (s : State σ τ) : Reading.Result × State σ τ :=
  let result := Reading.read c.limits c.address (c.calls s.services item)
  (result, c.noted [result] s)

/-- A write on the state: its hand-overs are counted. -/
def handOver (write : Carrier (Metrics × σ) → Metrics × σ → Except Failure Unit × (Metrics × σ))
    (c : Composite σ τ) (s : State σ τ) : Except Failure Unit × State σ τ :=
  let (result, metrics, carrier) := write c.carrier.counted (s.metrics, s.carrier)
  (result, { s with metrics, carrier })

/-- Hands over one event on a topic. -/
def publish (c : Composite σ τ) (topic : String) (m : Message) (s : State σ τ) :
    Except Refusal Unit × State σ τ :=
  let (result, metrics, carrier) :=
    c.carrier.counted.publish (s.metrics, s.carrier) topic m.key m.payload
  (result, { s with metrics, carrier })

/-- Creates an item. -/
def create (c : Composite σ τ) (request : CreateRequest) (stamps : Stamps) :
    State σ τ → Except Failure Unit × State σ τ :=
  c.handOver fun carrier => propagateCreate carrier request stamps

/-- Deletes an item. -/
def delete (c : Composite σ τ) (item : ItemId) (stamps : Stamps) :
    State σ τ → Except Failure Unit × State σ τ :=
  c.handOver fun carrier => propagateDelete carrier item stamps

/-- The composite service behind the HTTP interface; the events of a write are stamped so. -/
def backend (c : Composite σ τ) (stamps : Stamps) : Http.Backend (State σ τ) where
  read item s := let (r, s) := c.read item s; (r.result, s)
  create request := c.create request stamps
  delete item := c.delete item stamps
  count counter s := { s with metrics := s.metrics.raise counter }
  exposition s := s.metrics.exposition
  reportTail := c.reportTail

end Composite

end Catalogue
