import Catalogue.Composite
import Catalogue.Pause
import Catalogue.Services.Local
import Catalogue.Services.Remote
import Catalogue.Stores

/-!
# Deployments

The composite service is deployed in two ways: in front of services on the network, with a transport
of its own, or together with everything else in one process.

* `Composite.ofSettings` -- the composite service in front of services on the network;
* `Deployment` -- a whole system in one process: the composite service, the services it reads from,
  a transport that can be limited, and the stores that its topics feed;
* `Deployment.poll` -- a poll of a consumer on these stores;
* `Deployment.start`, `Deployment.sleep`, `Deployment.stop` -- consumers in the background, one per
  topic and partition.

Consumers in the background poll at once and then in regular intervals, but only while the system
sleeps. A poll that falls due at other times is made up for at the beginning of the next sleep, and
one that falls due at the end of a sleep belongs to the next one.
-/

namespace Catalogue

namespace Composite

/-- The composite service with these settings. -/
def ofSettings (s : Settings) : Composite Transport RemoteServices where
  address := s.serviceAddress
  limits := .of s.poolSize s.queueDepth
  carrier := .transport
  calls := RemoteServices.calls
  called services _ := services

/-- The state of the composite service with these settings before anything has happened. -/
def State.ofSettings (web : Web) (s : Settings) : State Transport RemoteServices where
  metrics := .zero
  carrier := .empty s.eventPartitions
  services := .ofSettings web s
  clock := 0

/-- A composite service whose services are in the same process, and whose transport is limited. -/
def local_ (address : String) (limits : Pool.Limits) :
    Composite (List Quota × Transport) LocalServices where
  address := address
  limits := limits
  carrier := Carrier.transport.limited
  calls := LocalServices.calls
  called := LocalServices.called

end Composite

/-- Consumers in the background: when they poll next, and how long they wait after a poll. -/
structure ConsumerGroup where
  interval : Nat
  due : Nat
  consumers : List (Domain × Consumer)
  deriving DecidableEq, Repr

/-- A whole system in one process. -/
structure Deployment where
  composite : Composite (List Quota × Transport) LocalServices
  state : Composite.State (List Quota × Transport) LocalServices
  stores : Stores
  groups : List ConsumerGroup

namespace Deployment

/-- A deployment in which nothing has happened. -/
def fresh (partitions : Nat) (limits : Pool.Limits) (address : String) : Deployment where
  composite := .local_ address limits
  state := ⟨.zero, ([], .empty partitions), .empty, 0⟩
  stores := .empty
  groups := []

/-- The transport. -/
def transport (s : Deployment) : Transport := s.state.carrier.2

/-- Changes the transport. -/
def setTransport (s : Deployment) (t : Transport) : Deployment :=
  { s with state.carrier := (s.state.carrier.1, t) }

/-- A poll of a consumer on the topic of a domain, whose records are processed in some way. -/
def poll (s : Deployment) (process : Domain → Processing Stores) (d : Domain) (c : Consumer) :
    Consumer × PollSummary × Deployment :=
  let (c, summary, t, stores) := c.poll (process d) s.transport s.stores
  let s := s.setTransport t
  let metrics := (s.state.metrics.raiseBy (.eventsProcessed d.topic) summary.applied).raiseBy
    (.eventsFailed d.topic) summary.failed
  (c, summary, { s with state.metrics := metrics, stores })

/-! ## Consumers in the background -/

/-- The consumers of all topics, from the beginning of every partition. -/
def allConsumers (partitions : Nat) : List (Domain × Consumer) :=
  (List.range partitions).flatMap fun p => Domain.all.map fun d => (d, ⟨d.topic, p, 0⟩)

/-- Starts a consumer for every topic and partition. -/
def start (s : Deployment) (interval : Nat) : Deployment :=
  { s with
    groups := s.groups ++ [⟨pause interval, s.state.clock, allConsumers s.transport.partitions⟩] }

/-- Stops all consumers in the background. -/
def stop (s : Deployment) : Deployment := { s with groups := [] }

/-- Polls consumers one after another. -/
def pollAll : List (Domain × Consumer) → Deployment → List (Domain × Consumer) × Deployment
  | [], s => ([], s)
  | (d, c) :: rest, s =>
    let (c, _, s) := s.poll Stores.process d c
    let (rest, s) := pollAll rest s
    ((d, c) :: rest, s)

/-- The first of the groups that poll next, if they do so before a time. -/
def nextGroup? (before : Nat) : List ConsumerGroup → Option (Nat × ConsumerGroup)
  | [] => none
  | g :: rest =>
    match nextGroup? before rest with
    | none => if g.due < before then some (0, g) else none
    | some (i, h) => if g.due ≤ h.due then some (0, g) else some (i + 1, h)

/-- Sleeps until a time, with a bound on the number of polls. -/
def sleepUntil (time : Nat) : Nat → Deployment → Deployment
  | 0, s => { s with state.clock := max s.state.clock time }
  | polls + 1, s =>
    match nextGroup? time s.groups with
    | none => { s with state.clock := max s.state.clock time }
    | some (i, g) =>
      let clock := max s.state.clock g.due
      let (consumers, s) := pollAll g.consumers { s with state.clock := clock }
      let groups := s.groups.set i { g with due := clock + g.interval, consumers }
      sleepUntil time polls { s with groups }

/-- Sleeps for a time, in milliseconds. A group polls at most once in each of them. -/
def sleep (s : Deployment) (time : Nat) : Deployment :=
  s.sleepUntil (s.state.clock + pause time) (s.groups.length * pause time)

end Deployment

end Catalogue
