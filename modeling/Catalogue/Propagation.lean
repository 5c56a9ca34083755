import Catalogue.Entity.Creation
import Catalogue.Event
import Catalogue.Transport.Carrier

/-!
# Writes

A write becomes change events on the topics of the three domains. A create sends the product, then
one event per recommendation and per review in the order of the request; a delete sends one event
per domain. All events of an item have its id as key.

The three domains are independent: within one the events are handed over one after another, and a
refused one stops the rest of its domain, but not the other two.

* `Message` -- an event that is ready to be handed over;
* `Stamps` -- when the events of a write are made, each at an instant of its own;
* `createMessages`, `deleteMessages` -- what a write sends in each domain (`creations`: the events
  that create entities one after another);
* `Propagation` -- a write on its way, `Propagation.step` -- the next hand-over of a domain;
* `Propagation.outcome` -- how it ended: the first refusal in the order of the domains;
* `propagate`, `propagateCreate`, `propagateDelete` -- whole writes, domain after domain.
-/

namespace Catalogue

/-- An event that is ready to be handed over. -/
structure Message where
  key : String
  payload : Bytes
  deriving DecidableEq, Repr

/-- A change event as it is handed over: under its item's key. -/
def Message.ofEvent {α : Type} (entity : Json.Codec α) (e : ChangeEvent α) : Message :=
  ⟨e.key.partitionKey, (Json.Codec.changeEvent entity).encode e⟩

/-- When the events of a write are made. Each is stamped on its own: the stamp of an event hangs on
    its domain and on its place there, and nothing is known of how the clock runs in between. -/
structure Stamps where
  /-- The stamp of the event at a place in a domain. -/
  of : Domain → Nat → Instant

/-- A clock that stands still. -/
instance : Coe Instant Stamps := ⟨fun now => ⟨fun _ _ => now⟩⟩

/-- The events that create entities of an item one after another. -/
def creations {α : Type} (entity : Json.Codec α) (item : ItemId) (stamp : Nat → Instant)
    (as : List α) : List Message :=
  as.mapIdx fun i a => Message.ofEvent entity ⟨item, .create a, stamp i⟩

/-- The events of a create. -/
def createMessages (w : AggregateWrite) (stamps : Stamps) : Domain → List Message
  | .product => creations Json.Codec.product w.itemId (stamps.of .product) [w.product]
  | .recommendation =>
    creations Json.Codec.recommendation w.itemId (stamps.of .recommendation) w.recommendations
  | .review => creations Json.Codec.review w.itemId (stamps.of .review) w.reviews

/-- The events of a delete. -/
def deleteMessages (item : ItemId) (stamps : Stamps) : Domain → List Message := fun d =>
  [Message.ofEvent Json.Codec.unit ⟨item, .delete, stamps.of d 0⟩]

/-! ## 1. Hand-over, one event at a time -/

/-- A write on its way: what each domain still has to hand over, and where one was refused. -/
structure Propagation where
  pending : Domain → List Message
  refused : Domain → Option Refusal

namespace Propagation

variable {σ : Type}

/-- A write that has not begun. -/
def start (messages : Domain → List Message) : Propagation := ⟨messages, fun _ => none⟩

/-- Changes the value at one domain. -/
def set {α : Type} (f : Domain → α) (d : Domain) (a : α) : Domain → α :=
  fun e => if e = d then a else f e

/-- Hands over the next event of a domain, unless there is none or one was refused. -/
def step (c : Carrier σ) (d : Domain) (p : Propagation) (s : σ) : Propagation × σ :=
  match p.refused d, p.pending d with
  | none, m :: rest =>
    match c.publish s d.topic m.key m.payload with
    | (.ok (), s) => ({ p with pending := set p.pending d rest }, s)
    | (.error r, s) => ({ p with refused := set p.refused d (some r) }, s)
  | _, _ => (p, s)

/-- Hands over events in the given order of domains. -/
def steps (c : Carrier σ) : List Domain → Propagation → σ → Propagation × σ
  | [], p, s => (p, s)
  | d :: ds, p, s => let (p, s) := p.step c d s; steps c ds p s

/-- Whether a domain has nothing left to do. -/
def settled (p : Propagation) (d : Domain) : Bool :=
  (p.refused d).isSome || (p.pending d).isEmpty

/-- How a write ended: the first refusal in the order of the domains, if there is any. -/
def outcome (p : Propagation) : Except Refusal Unit :=
  match Domain.all.findSome? p.refused with
  | some r => .error r
  | none => .ok ()

/-- The order of hand-overs in which the domains come one after another. -/
def inOrder (messages : Domain → List Message) : List Domain :=
  Domain.all.flatMap fun d => List.replicate (messages d).length d

end Propagation

/-! ## 2. Whole writes -/

section

variable {σ : Type}

/-- Hands over the events of all domains. -/
def propagate (c : Carrier σ) (messages : Domain → List Message) (s : σ) :
    Except Failure Unit × σ :=
  let (p, s) := (Propagation.start messages).steps c (Propagation.inOrder messages) s
  match p.outcome with
  | .ok () => (.ok (), s)
  | .error r => (.error ⟨.unexpected, r.message⟩, s)

/-- A create. A request that breaks a rule hands over nothing. -/
def propagateCreate (c : Carrier σ) (request : CreateRequest) (stamps : Stamps) (s : σ) :
    Except Failure Unit × σ :=
  match request.toWrite with
  | .error v => (.error (.ofViolation v), s)
  | .ok w => propagate c (createMessages w stamps) s

/-- A delete. -/
def propagateDelete (c : Carrier σ) (item : ItemId) (stamps : Stamps) (s : σ) :
    Except Failure Unit × σ :=
  propagate c (deleteMessages item stamps) s

end

end Catalogue
