import Catalogue.Proofs.Store.Domains
import Catalogue.Proofs.Write.Rules
import Catalogue.Propagation

/-!
# What a write is for

A write is meant to change the stores of the three domains. It could do so at once; instead it hands
over messages, and each message asks its item for a part of the change. Both come to the same.

* `AggregateWrite.entities` -- the entities of a create, domain by domain;
* `Write` -- what a caller can ask for, `Write.call` -- the call, `Write.messages` -- what it hands
  over in each domain;
* `Write.direct` -- the write carried out on stores, without any transport;
* `Message.effect` -- what a message asks of an item, `key_of_effect` -- nothing unless it travels
  under the key of that item;
* `find_direct` -- the write on stores is the effects of its messages, in order;
* `snd_call` -- the call hands over the messages of each domain, one domain after another.
-/

namespace Catalogue

/-- What a caller can ask for. -/
inductive Write where
  | create (request : CreateRequest)
  | delete (item : ItemId)

/-- What a message on the topic of a domain asks of an item. -/
def Message.effect (d : Domain) (k : ItemId) (m : Message) : Option (Action d.Carried) :=
  Store.effectOn d.codec k m.payload

/-! ## 1. The entities of a create -/

/-- The entities of a create that belong to a domain. -/
def AggregateWrite.entities (w : AggregateWrite) : (d : Domain) → List d.Carried
  | .product => [w.product]
  | .recommendation => w.recommendations
  | .review => w.reviews

theorem createMessages_eq (w : AggregateWrite) (stamps : Stamps) (d : Domain) :
    createMessages w stamps d = creations d.codec w.itemId (stamps.of d) (w.entities d) := by
  cases d with
  | product => rfl
  | recommendation => rfl
  | review => rfl

/-- Every creation is stamped, and each at an instant of its own. -/
theorem exists_of_mem_creations {α : Type} {entity : Json.Codec α} {item : ItemId}
    {stamp : Nat → Instant} {as : List α} {m : Message} (hm : m ∈ creations entity item stamp as) :
    ∃ a ∈ as, ∃ now, m = Message.ofEvent entity ⟨item, .create a, now⟩ := by
  obtain ⟨i, hi, rfl⟩ := List.mem_mapIdx.mp hm
  exact ⟨as[i], List.getElem_mem hi, stamp i, rfl⟩

/-- **What does not hang on the stamps** can be read off the entities. -/
theorem map_creations {α β : Type} {entity : Json.Codec α} {item : ItemId} {stamp : Nat → Instant}
    {as : List α} {f : Message → β} {g : α → β}
    (h : ∀ a ∈ as, ∀ now, f (Message.ofEvent entity ⟨item, .create a, now⟩) = g a) :
    (creations entity item stamp as).map f = as.map g := by
  refine List.ext_getElem (by simp [creations]) fun i hi _ => ?_
  have ha : i < as.length := by simpa [creations] using hi
  simp only [creations, List.getElem_map, List.getElem_mapIdx]
  exact h as[i] (List.getElem_mem ha) (stamp i)

/-- **All entities of a valid request belong to its item.** -/
theorem itemId_of_mem_entities {r : CreateRequest} {w : AggregateWrite} (h : r.toWrite = .ok w)
    (d : Domain) {a : d.Carried} (ha : a ∈ w.entities d) : Entity.itemId a = w.itemId := by
  obtain ⟨item, -, rfl⟩ := CreateRequest.of_toWrite h
  cases d with
  | product =>
    rw [List.mem_singleton.mp ha]
    rfl
  | recommendation =>
    obtain ⟨r, -, rfl⟩ := List.mem_map.mp ha
    rfl
  | review =>
    obtain ⟨r, -, rfl⟩ := List.mem_map.mp ha
    rfl

/-- Entities of one item that are placed one after another. -/
theorem Store.find_foldl_upsert {α : Type} [Entity α] {item : ItemId} {as : List α}
    (has : ∀ a ∈ as, Entity.itemId a = item) (s : Store α) (k : ItemId) :
    (as.foldl Store.upsert s).find k =
      Store.amendAll (as.map fun a => if k = item then some (.create a) else none) (s.find k) := by
  induction as generalizing s with
  | nil => rfl
  | cons a as ih =>
    have ha := has a List.mem_cons_self
    rw [List.foldl_cons, ih (fun b hb => has b (List.mem_cons_of_mem a hb)), find_upsert, ha,
      List.map_cons, Store.amendAll_cons]
    split
    · rfl
    · rfl

/-! ## 2. Writes -/

namespace Write

/-- A call of the composite service, from beginning to end. -/
def call {σ : Type} (c : Carrier σ) (stamps : Stamps) : Write → σ → Except Failure Unit × σ
  | .create request, s => propagateCreate c request stamps s
  | .delete item, s => propagateDelete c item stamps s

/-- The messages of a write; those of a request that breaks a rule are none. -/
def messages (stamps : Stamps) : Write → Domain → List Message
  | .create request =>
    match request.toWrite with
    | .ok w => createMessages w stamps
    | .error _ => fun _ => []
  | .delete item => deleteMessages item stamps

/-- The write carried out on stores: a valid create places the product, the recommendations and the
    reviews in the order of the request, and a delete removes all entities of the item. -/
def direct : Write → Stores → Stores
  | .create request, s =>
    match request.toWrite with
    | .ok w =>
      { products := s.products.upsert w.product
        recommendations := w.recommendations.foldl Store.upsert s.recommendations
        reviews := w.reviews.foldl Store.upsert s.reviews }
    | .error _ => s
  | .delete item, s =>
    { products := (s.products.deleteAll item).1
      recommendations := (s.recommendations.deleteAll item).1
      reviews := (s.reviews.deleteAll item).1 }

variable (w : Write) (stamps : Stamps)

/-- **A message asks something of an item only if it travels under the item's key.** -/
theorem key_of_effect {d : Domain} {k : ItemId} {m : Message} (hm : m ∈ w.messages stamps d)
    (he : m.effect d k ≠ none) : m.key = k.partitionKey := by
  cases w with
  | create request =>
    cases haw : request.toWrite with
    | error v =>
      simp only [messages, haw] at hm
      exact absurd hm List.not_mem_nil
    | ok aw =>
      simp only [messages, haw, createMessages_eq] at hm
      obtain ⟨a, ha, now, rfl⟩ := exists_of_mem_creations hm
      have heff := Store.effectOn_create d (itemId_of_mem_entities haw d ha) now k
      by_cases hk : k = aw.itemId
      · rw [hk]
        rfl
      · rw [if_neg hk] at heff
        exact absurd heff he
  | delete item =>
    obtain rfl := List.mem_singleton.mp hm
    have heff := Store.effectOn_delete d item (stamps.of d 0) k
    by_cases hk : k = item
    · rw [hk]
      rfl
    · rw [if_neg hk] at heff
      exact absurd heff he

theorem of_direct_create {r : CreateRequest} {aw : AggregateWrite} (haw : r.toWrite = .ok aw)
    (s : Stores) (d : Domain) :
    (direct (.create r) s).of d = (aw.entities d).foldl Store.upsert (s.of d) := by
  simp only [direct, haw]
  cases d with
  | product => rfl
  | recommendation => rfl
  | review => rfl

theorem of_direct_delete (item : ItemId) (s : Stores) (d : Domain) :
    (direct (.delete item) s).of d = ((s.of d).deleteAll item).1 := by
  cases d with
  | product => rfl
  | recommendation => rfl
  | review => rfl

/-- **A write changes the list of an item by the effects of its messages**, in order. -/
theorem find_direct (s : Stores) (d : Domain) (k : ItemId) :
    ((w.direct s).of d).find k =
      Store.amendAll ((w.messages stamps d).map (Message.effect d k)) ((s.of d).find k) := by
  cases w with
  | create request =>
    cases haw : request.toWrite with
    | error v =>
      simp only [messages, direct, haw]
      rfl
    | ok aw =>
      have hmem (a : d.Carried) (ha : a ∈ aw.entities d) := itemId_of_mem_entities haw d ha
      rw [of_direct_create haw, Store.find_foldl_upsert hmem]
      simp only [messages, haw, createMessages_eq]
      rw [map_creations fun a ha now => Store.effectOn_create d (hmem a ha) now k]
  | delete item =>
    have heff := Store.effectOn_delete d item (stamps.of d 0) k
    have hmsg : (messages stamps (.delete item) d).map (Message.effect d k) =
        [if k = item then some .delete else none] := congrArg (fun e => [e]) heff
    rw [of_direct_delete, hmsg, Store.find_deleteAll]
    split
    · rfl
    · rfl

/-! ## 3. Calls -/

/-- **A call hands over the messages of the three domains**, one domain after another. -/
theorem snd_call {σ : Type} (c : Carrier σ) (s : σ) :
    (w.call c stamps s).2 = ((Propagation.start (w.messages stamps)).steps c
      (Propagation.inOrder (w.messages stamps)) s).2 := by
  have hpropagate (ms : Domain → List Message) : (propagate c ms s).2 =
      ((Propagation.start ms).steps c (Propagation.inOrder ms) s).2 := by
    unfold propagate
    simp only
    split
    · rfl
    · rfl
  cases w with
  | create request =>
    simp only [call, propagateCreate, messages]
    cases request.toWrite with
    | error v => rfl
    | ok aw => exact hpropagate _
  | delete item => exact hpropagate _

end Write

end Catalogue
