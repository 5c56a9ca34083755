import Catalogue.Propagation
import Catalogue.Proofs.Instant.Text
import Catalogue.Proofs.Json.Record

/-!
# What is sent is what arrives

A change event survives its way as JSON, whatever entity it carries, and a delete is the same for
all entities.

* `faithful_itemId`, `faithful_instant`, `faithful_eventType` -- the members of an event;
* `faithful_product`, `faithful_recommendation`, `faithful_review` -- the entities;
* `faithful_changeEvent` -- an event, two brackets deep at most with these entities;
* `decode_encode` -- a whole text of a faithful codec;
* `decode_of_no_data` -- an event without data, whatever the codec of the data would be;
* `decode_delete` -- a delete that was sent without knowing of the entities.
-/

namespace Catalogue.Json

/-! ## 1. Members -/

theorem faithful_itemId (depth : Nat) : Codec.itemId.Faithful depth := by
  refine (faithful_int64 depth).checked fun k => ?_
  have hk := k.lt
  have hval : (Int64.ofNat k.val).toInt = k.val := Int64.toInt_ofNat_of_lt (by omega)
  simp only [hval, ItemId.ofInt_val]

theorem faithful_instant (depth : Nat) : Codec.instant.Faithful depth := by
  refine (faithful_string _ depth).checked fun i => ?_
  have hparse : Instant.parse i.text.toList = .ok i := by
    rw [Instant.text, String.toList_ofList]
    exact i.parse_chars
  simp only [hparse]

theorem faithful_eventType (depth : Nat) : Codec.eventType.Faithful depth where
  read_write e budget rest _ _ := by
    have hword : eventTypeOf e.word = .ok e := by
      cases e
      · rfl
      · rfl
    simp only [Codec.eventType, writeText_append]
    rw [skipBlank_cons (by decide)]
    simp only [if_true, readText_write, bind, Except.bind, hword]
  head e := ⟨0x22, _, rfl, rfl, by decide⟩

/-! ## 2. Entities -/

theorem faithful_product : Codec.product.Faithful 1 := by
  refine Codec.Faithful.record "Product" ?_ fun _ => rfl
  simp only [productFields, Fields.Faithful]
  exact ⟨faithful_itemId 0, by decide, faithful_text 0, by decide, faithful_int32 0, by decide,
    faithful_text 0, by decide, trivial⟩

theorem faithful_recommendation : Codec.recommendation.Faithful 1 := by
  refine Codec.Faithful.record "Recommendation" ?_ fun _ => rfl
  simp only [recommendationFields, Fields.Faithful]
  exact ⟨faithful_itemId 0, by decide, faithful_int64 0, by decide, faithful_text 0, by decide,
    faithful_int32 0, by decide, faithful_text 0, by decide, faithful_text 0, by decide, trivial⟩

theorem faithful_review : Codec.review.Faithful 1 := by
  refine Codec.Faithful.record "Review" ?_ fun _ => rfl
  simp only [reviewFields, Fields.Faithful]
  exact ⟨faithful_itemId 0, by decide, faithful_int64 0, by decide, faithful_text 0, by decide,
    faithful_text 0, by decide, faithful_text 0, by decide, faithful_text 0, by decide, trivial⟩

/-! ## 3. Events -/

section

variable {α : Type} {entity : Codec α} {depth : Nat}

theorem faithful_wireEvent (h : entity.Faithful depth) :
    (Codec.wireEvent entity).Faithful (depth + 1) := by
  refine Codec.Faithful.record "WireEvent" ?_ fun _ => rfl
  simp only [wireEventFields, Fields.Faithful]
  exact ⟨faithful_eventType depth, by simp [Fields.names], faithful_itemId depth,
    by simp [Fields.names], h, by decide, faithful_instant depth, by decide, trivial⟩

/-- **A change event is read back**, if its entity is. -/
theorem faithful_changeEvent (h : entity.Faithful depth) :
    (Codec.changeEvent entity).Faithful (depth + 1) :=
  (faithful_wireEvent h).checked ChangeEvent.ofWire_toWire

theorem Codec.Faithful.decode_encode {c : Codec α} (h : c.Faithful depth)
    (hle : depth ≤ Codec.nesting) (a : α) : c.decode (c.encode a) = .ok a := by
  have hread := h.read_write a hle delimited_nil
  rw [List.append_nil] at hread
  simp only [Codec.decode, Codec.encode, hread]
  rfl

/-- **An event on the wire that has no data is read back**, whatever the codec of the data. -/
theorem read_wireEvent_of_no_data (entity : Codec α) {w : WireEvent α} (hdata : w.data = none)
    {budget : Nat} (hle : 1 ≤ budget) (rest : Bytes) :
    (Codec.wireEvent entity).read budget ((Codec.wireEvent entity).write w ++ rest) =
      .ok (w, rest) := by
  have hfields : (wireEventFields entity).FaithfulAt
      (w.eventType, w.key, w.data, w.eventCreatedAt, ()) 0 := by
    simp only [wireEventFields, Fields.FaithfulAt]
    exact ⟨faithful_eventType 0, by simp [Fields.names], faithful_itemId 0, by simp [Fields.names],
      by simp [hdata], by decide, faithful_instant 0, by decide, trivial⟩
  refine Codec.record_read_write "WireEvent" ?_ rfl hle rest
  exact hfields

/-- What a whole text without data says: a delete, or a create that lacks its entity. -/
theorem decode_of_no_data (entity : Codec α) {w : WireEvent α} (hdata : w.data = none) :
    (Codec.changeEvent entity).decode ((Codec.wireEvent entity).encode w) =
      match ChangeEvent.ofWire w with
      | .ok e => .ok e
      | .error reason => .error (.here (.rejected reason)) := by
  have hread : (Codec.wireEvent entity).read Codec.nesting
      ((Codec.wireEvent entity).write w ++ []) = .ok (w, []) :=
    read_wireEvent_of_no_data entity hdata (by decide) []
  rw [List.append_nil] at hread
  simp only [Codec.decode, Codec.encode, Codec.changeEvent, Codec.checked, hread]
  cases ChangeEvent.ofWire w with
  | ok e => rfl
  | error reason => rfl

/-- **A delete arrives as a delete**, whatever entities it meets: it is written without them. -/
theorem decode_delete {β : Type} (entity : Codec α) (entity' : Codec β) (item : ItemId)
    (now : Instant) :
    (Codec.changeEvent entity).decode
        ((Codec.changeEvent entity').encode ⟨item, .delete, now⟩) =
      .ok ⟨item, .delete, now⟩ :=
  decode_of_no_data entity (w := ⟨.delete, item, none, now⟩) rfl

end

end Catalogue.Json
