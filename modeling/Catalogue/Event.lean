import Catalogue.Instant
import Catalogue.Item
import Catalogue.Json.Record

/-!
# Change events

Every change of a product, a recommendation or a review travels as an event about an item: a create
carries an entity, a delete removes all entities of the item.

* `ChangeEvent` -- the events, in which a create cannot lack its entity;
* `ChangeEvent.sameChange` -- equality up to the time of creation;
* `WireEvent` -- the form on the wire, with type and data apart;
* `ChangeEvent.toWire`, `ChangeEvent.ofWire` -- from one to the other (`ofWire_toWire`: nothing is
  lost);
* `Codec.changeEvent` -- an event as JSON.
-/

namespace Catalogue

/-- What an event does. -/
inductive EventType where
  | create
  | delete
  deriving DecidableEq, Repr

/-- The word for a type of event. -/
def EventType.word : EventType → String
  | .create => "CREATE"
  | .delete => "DELETE"

/-- What an event asks for. -/
inductive Action (α : Type) where
  | create (entity : α)
  | delete
  deriving DecidableEq, Repr

/-- A change of the entities of one item. -/
structure ChangeEvent (α : Type) where
  key : ItemId
  action : Action α
  createdAt : Instant
  deriving DecidableEq

/-- An event as it is sent. -/
structure WireEvent (α : Type) where
  eventType : EventType
  key : ItemId
  data : Option α
  eventCreatedAt : Instant
  deriving DecidableEq

namespace ChangeEvent

variable {α : Type}

/-- The type of an event. -/
def eventType (e : ChangeEvent α) : EventType :=
  match e.action with
  | .create _ => .create
  | .delete => .delete

/-- The entity of a create. -/
def payload (e : ChangeEvent α) : Option α :=
  match e.action with
  | .create a => some a
  | .delete => none

/-- Whether two events ask for the same, whenever they were created. -/
def sameChange [BEq α] (a b : ChangeEvent α) : Bool :=
  a.key == b.key &&
    match a.action, b.action with
    | .create x, .create y => x == y
    | .delete, .delete => true
    | _, _ => false

/-- Whether two events are equal. -/
def same [BEq α] (a b : ChangeEvent α) : Bool := a.sameChange b && a.createdAt == b.createdAt

/-- The event as it is sent. -/
def toWire (e : ChangeEvent α) : WireEvent α := ⟨e.eventType, e.key, e.payload, e.createdAt⟩

/-- The wording for an event whose data do not match its type. -/
def malformedText (eventType : EventType) (key : ItemId) (reason : String) : String :=
  "Malformed " ++ eventType.word ++ " event for key " ++ decimalText key.val ++ ": " ++ reason

/-- The event that was sent: a create needs data and a delete must have none. -/
def ofWire (w : WireEvent α) : Except String (ChangeEvent α) :=
  match w.eventType, w.data with
  | .create, some a => .ok ⟨w.key, .create a, w.eventCreatedAt⟩
  | .delete, none => .ok ⟨w.key, .delete, w.eventCreatedAt⟩
  | .create, none => .error (malformedText .create w.key "missing data")
  | .delete, some _ => .error (malformedText .delete w.key "unexpected data")

/-- **What was sent is what arrives.** -/
theorem ofWire_toWire (e : ChangeEvent α) : ofWire e.toWire = .ok e := by
  obtain ⟨key, action, createdAt⟩ := e
  cases action <;> rfl

end ChangeEvent

namespace Json

/-- The type of event a word names. -/
def eventTypeOf (word : String) : Except Mismatch EventType :=
  if word = EventType.create.word then .ok .create
  else if word = EventType.delete.word then .ok .delete
  else .error (.unknownWord word EventType.create.word EventType.delete.word)

/-- A type of event: its word, or an object whose only member has that name and is `null`. -/
def Codec.eventType : Codec EventType where
  read budget t :=
    let word (r : Except Fault (String × Bytes)) : Except Fault (EventType × Bytes) := do
      let (s, rest) ← r
      match eventTypeOf s with
      | .ok e => .ok (e, rest)
      | .error cause => .error (.here cause)
    match skipBlank t with
    | [] => .error .unfinished
    | b :: rest =>
      if b = 0x22 then word (readText rest)
      else if b = 0x7B then
        match budget with
        | 0 => .error .ungrammatical
        | budget + 1 => do
          let (e, t) ← word (readString "variant identifier" rest)
          let t ← expectColon t
          let ((), t) ← Codec.unit.read budget t
          let t ← closeObject t
          .ok (e, t)
      else .error .ungrammatical
  write e := writeText e.word

/-- The members of an event on the wire. -/
def wireEventFields {α : Type} (entity : Codec α) :=
  Fields.required "eventType" Codec.eventType <|
  .required "key" Codec.itemId <|
  .optional "data" .null entity <|
  .required "eventCreatedAt" Codec.instant .nil

/-- An event on the wire. -/
def Codec.wireEvent {α : Type} (entity : Codec α) : Codec (WireEvent α) :=
  Codec.record "WireEvent" (wireEventFields entity)
    (fun (eventType, key, data, at_, ()) => ⟨eventType, key, data, at_⟩)
    (fun w => (w.eventType, w.key, w.data, w.eventCreatedAt, ()))

/-- A change event of a type of entity. -/
def Codec.changeEvent {α : Type} (entity : Codec α) : Codec (ChangeEvent α) :=
  (Codec.wireEvent entity).checked ChangeEvent.ofWire ChangeEvent.toWire

end Json

end Catalogue
