import Catalogue.Proofs.Event.RoundTrip
import Catalogue.Proofs.Store.Items
import Catalogue.Stores

/-!
# The stores of the domains, side by side

What holds for one domain holds for all three. This file says it once, with the domain as a
parameter.

* `Domain.Carried`, `Domain.codec` -- the entities of a domain, and their form as JSON
  (`faithful_codec`: what is written is read back);
* `Stores.of` -- the store of a domain among the three;
* `of_process_self`, `of_process_other` -- a payload from the topic of a domain is processed on the
  store of that domain, and the others are left alone;
* `find_replay_process` -- a run of records from one topic, seen from one item;
* `effectOn_create`, `effectOn_delete` -- what an event that was sent asks of an item.
-/

namespace Catalogue

namespace Domain

/-- The entities of a domain. -/
def Carried : Domain → Type
  | .product => Product
  | .recommendation => Recommendation
  | .review => Review

instance entity (d : Domain) : Entity d.Carried :=
  match d with
  | .product => inferInstanceAs (Entity Product)
  | .recommendation => inferInstanceAs (Entity Recommendation)
  | .review => inferInstanceAs (Entity Review)

/-- The entities of a domain as JSON. -/
def codec : (d : Domain) → Json.Codec d.Carried
  | .product => Json.Codec.product
  | .recommendation => Json.Codec.recommendation
  | .review => Json.Codec.review

theorem faithful_codec (d : Domain) : d.codec.Faithful 1 := by
  cases d with
  | product => exact Json.faithful_product
  | recommendation => exact Json.faithful_recommendation
  | review => exact Json.faithful_review

theorem topic_injective {d e : Domain} (h : d.topic = e.topic) : d = e := by
  have label : ∀ d : Domain, Domain.all.find? (fun e => e.topic == d.topic) = some d := by
    intro d
    cases d <;> rfl
  have hd := label d
  rw [h, label e] at hd
  exact (Option.some.inj hd).symm

theorem mem_all (d : Domain) : d ∈ all := by
  cases d with
  | product => exact .head _
  | recommendation => exact .tail _ (.head _)
  | review => exact .tail _ (.tail _ (.head _))

theorem forall_mem_all {P : Domain → Prop} : (∀ d ∈ all, P d) ↔ ∀ d, P d :=
  ⟨fun h d => h d d.mem_all, fun h d _ => h d⟩

end Domain

/-! ## 1. A store inside something larger -/

section

variable {ρ α : Type} [Entity α] (get : ρ → Store α) (set : Store α → ρ → ρ)

/-- **What is done inside is what would be done alone**, and nothing else is. -/
theorem processPayload_within (entity : Json.Codec α) (payload : Bytes) (r : ρ) :
    ((processPayload entity (StoreAccess.local_.within get set) payload r).2 = r ∧
        (processPayload entity .local_ payload (get r)).2 = get r) ∨
      (processPayload entity (StoreAccess.local_.within get set) payload r).2 =
        set (processPayload entity .local_ payload (get r)).2 r := by
  unfold processPayload
  cases (Json.Codec.changeEvent entity).decode payload with
  | error fault => exact Or.inl ⟨rfl, rfl⟩
  | ok e =>
    obtain ⟨key, action, at_⟩ := e
    cases action with
    | create x =>
      simp only [applyEvent]
      split
      · exact Or.inr rfl
      · exact Or.inl ⟨rfl, rfl⟩
    | delete => exact Or.inr rfl

theorem get_processPayload_within (hget : ∀ s r, get (set s r) = s) (entity : Json.Codec α)
    (payload : Bytes) (r : ρ) :
    get (processPayload entity (StoreAccess.local_.within get set) payload r).2 =
      (processPayload entity .local_ payload (get r)).2 := by
  rcases processPayload_within get set entity payload r with ⟨hr, hs⟩ | hr
  · rw [hr, hs]
  · rw [hr, hget]

theorem other_processPayload_within {τ : Type} (other : ρ → τ)
    (hother : ∀ s r, other (set s r) = other r) (entity : Json.Codec α) (payload : Bytes) (r : ρ) :
    other (processPayload entity (StoreAccess.local_.within get set) payload r).2 = other r := by
  rcases processPayload_within get set entity payload r with ⟨hr, -⟩ | hr
  · rw [hr]
  · rw [hr, hother]

end

/-! ## 2. The three stores -/

namespace Stores

/-- The store of a domain. -/
def of (s : Stores) : (d : Domain) → Store d.Carried
  | .product => s.products
  | .recommendation => s.recommendations
  | .review => s.reviews

/-- **A payload is processed on the store of its domain.** -/
theorem of_process_self (d : Domain) (payload : Bytes) (s : Stores) :
    (process d payload s).2.of d = (processPayload d.codec StoreAccess.local_ payload (s.of d)).2 := by
  cases d with
  | product =>
    exact get_processPayload_within products (fun store s => { s with products := store })
      (fun _ _ => rfl) Json.Codec.product payload s
  | recommendation =>
    exact get_processPayload_within recommendations
      (fun store s => { s with recommendations := store }) (fun _ _ => rfl)
      Json.Codec.recommendation payload s
  | review =>
    exact get_processPayload_within reviews (fun store s => { s with reviews := store })
      (fun _ _ => rfl) Json.Codec.review payload s

/-- **The stores of other domains are left alone.** -/
theorem of_process_other {d e : Domain} (h : e ≠ d) (payload : Bytes) (s : Stores) :
    (process d payload s).2.of e = s.of e := by
  cases d with
  | product =>
    refine other_processPayload_within products (fun store s => { s with products := store })
      (fun s => s.of e) (fun store s => ?_) Json.Codec.product payload s
    cases e with
    | product => exact absurd rfl h
    | recommendation => rfl
    | review => rfl
  | recommendation =>
    refine other_processPayload_within recommendations
      (fun store s => { s with recommendations := store }) (fun s => s.of e) (fun store s => ?_)
      Json.Codec.recommendation payload s
    cases e with
    | product => rfl
    | recommendation => exact absurd rfl h
    | review => rfl
  | review =>
    refine other_processPayload_within reviews (fun store s => { s with reviews := store })
      (fun s => s.of e) (fun store s => ?_) Json.Codec.review payload s
    cases e with
    | product => rfl
    | recommendation => rfl
    | review => exact absurd rfl h

theorem of_replay_self (d : Domain) (rs : List Record) (s : Stores) :
    (replay (process d) rs s).of d = replay (processPayload d.codec .local_) rs (s.of d) := by
  induction rs generalizing s with
  | nil => rfl
  | cons r rs ih =>
    have h := ih (process d r.payload s).2
    rw [of_process_self] at h
    exact h

theorem of_replay_other {d e : Domain} (h : e ≠ d) (rs : List Record) (s : Stores) :
    (replay (process d) rs s).of e = s.of e := by
  induction rs generalizing s with
  | nil => rfl
  | cons r rs ih => exact (ih (process d r.payload s).2).trans (of_process_other h r.payload s)

/-- **Records from the topic of a domain change the list of an item by their effects on it.** -/
theorem find_replay_process (d : Domain) (rs : List Record) (s : Stores) (item : ItemId) :
    ((replay (process d) rs s).of d).find item =
      Store.amendAll (rs.map fun r => Store.effectOn d.codec item r.payload)
        ((s.of d).find item) := by
  rw [of_replay_self, Store.find_replay]

end Stores

/-! ## 3. Events that were sent -/

namespace Store

/-- A create asks its item to place the entity. -/
theorem effectOn_create (d : Domain) {item : ItemId} {a : d.Carried} (ha : Entity.itemId a = item)
    (now : Instant) (k : ItemId) :
    effectOn d.codec k ((Json.Codec.changeEvent d.codec).encode ⟨item, .create a, now⟩) =
      if k = item then some (.create a) else none := by
  have hdecode := (Json.faithful_changeEvent d.faithful_codec).decode_encode (by decide)
    ⟨item, .create a, now⟩
  simp only [effectOn, hdecode, ha]
  by_cases hk : k = item
  · simp [hk]
  · simp [hk, Ne.symm hk]

/-- A delete asks its item to drop all entities. -/
theorem effectOn_delete (d : Domain) (item : ItemId) (now : Instant) (k : ItemId) :
    effectOn d.codec k ((Json.Codec.changeEvent Json.Codec.unit).encode ⟨item, .delete, now⟩) =
      if k = item then some .delete else none := by
  have hdecode := Json.decode_delete d.codec Json.Codec.unit item now
  simp only [effectOn, hdecode]
  by_cases hk : k = item
  · simp [hk]
  · simp [hk, Ne.symm hk]

end Store

end Catalogue
