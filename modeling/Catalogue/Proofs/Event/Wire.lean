import Catalogue.Proofs.Store.Domains

/-!
# The two ends of the wire

Writes and consumers do not name the same types of entity. A create is sent and received with the
entities of its domain; a delete is sent without any, and received by whoever has entities.

* `Json.decode_unit` -- an event without entities, read back without entities: a delete stays a
  delete, but a create is written as if it had no data, and is malformed;
* `wire_roundTrip` -- what arrives of what is sent, and of what is written again after it was read.
-/

namespace Catalogue

/-- **Without entities, only deletes are read back.** The entity of a create is written `null`, and
    that is how a missing one is written. -/
theorem Json.decode_unit (e : ChangeEvent Unit) :
    (Codec.changeEvent Codec.unit).decode ((Codec.changeEvent Codec.unit).encode e) =
      match e.action with
      | .create () =>
        .error (.here (.rejected (ChangeEvent.malformedText .create e.key "missing data")))
      | .delete => .ok e := by
  obtain ⟨item, action, now⟩ := e
  cases action with
  | create entity => exact decode_of_no_data Codec.unit (w := ⟨.create, item, none, now⟩) rfl
  | delete => exact decode_delete Codec.unit Codec.unit item now

/-- **What is sent is what arrives.** An event about the entities of a domain is read back from the
    message it becomes. A delete, which is sent without entities, is read as a delete in every
    domain. Where there are no entities, an event is read back if it is a delete, and not otherwise.
    And what was read from any text at all, however it was spelled, is read again from its own. -/
theorem wire_roundTrip :
    (∀ (d : Domain) (e : ChangeEvent d.Carried),
      (Json.Codec.changeEvent d.codec).decode (Message.ofEvent d.codec e).payload = .ok e) ∧
    (∀ (sender receiver : Domain) (item : ItemId) (stamps : Stamps),
      (deleteMessages item stamps sender).map
          (fun m => (Json.Codec.changeEvent receiver.codec).decode m.payload) =
        [.ok ⟨item, .delete, stamps.of sender 0⟩]) ∧
    (∀ e : ChangeEvent Unit,
      (Json.Codec.changeEvent Json.Codec.unit).decode
          ((Json.Codec.changeEvent Json.Codec.unit).encode e) = .ok e ↔ e.action = .delete) ∧
    (∀ (d : Domain) (t : Bytes) (e : ChangeEvent d.Carried),
      (Json.Codec.changeEvent d.codec).decode t = .ok e →
        (Json.Codec.changeEvent d.codec).decode ((Json.Codec.changeEvent d.codec).encode e) =
          .ok e) := by
  have own (d : Domain) (e : ChangeEvent d.Carried) :
      (Json.Codec.changeEvent d.codec).decode ((Json.Codec.changeEvent d.codec).encode e) = .ok e :=
    (Json.faithful_changeEvent d.faithful_codec).decode_encode (by decide) e
  refine ⟨own, fun sender receiver item stamps => ?_, fun e => ?_, fun d _ e _ => own d e⟩
  · exact congrArg (fun r => [r])
      (Json.decode_delete receiver.codec Json.Codec.unit item (stamps.of sender 0))
  · rw [Json.decode_unit]
    cases e.action with
    | create entity => exact ⟨nofun, nofun⟩
    | delete => exact ⟨fun _ => rfl, fun _ => rfl⟩

/-- A delete in another spelling: members in another order, an unknown one among them, a type that
    is an object, no data, and a leap second in another time zone. -/
example :
    let t := bytesOf ("\x7b \"eventCreatedAt\": \"+10000-01-01T01:00:60.5+01:00\", \"by\": [1], " ++
      "\"key\": 7, \"eventType\": \x7b\"DELETE\": null\x7d \x7d")
    let e : ChangeEvent Product := ⟨⟨7, by decide, by decide⟩, .delete, ⟨⟨10000, 1, 1, by decide⟩,
      ⟨0, 0, 59, 1500000000, by decide, by decide, by decide, by decide, by decide⟩⟩⟩
    (Json.Codec.changeEvent Json.Codec.product).decode t = .ok e ∧
      (Json.Codec.changeEvent Json.Codec.product).encode e =
        bytesOf ("\x7b\"eventType\":\"DELETE\",\"key\":7,\"data\":null," ++
          "\"eventCreatedAt\":\"+10000-01-01T00:00:60.500Z\"\x7d") :=
  ⟨rfl, by decide +kernel⟩

end Catalogue
