import Catalogue.Proofs.Store.Items

/-!
# Only the order within a key matters

A topic has many partitions, and events in different partitions arrive in any order. Events of one
item share a key and with it a partition, so their order is kept. That is order enough: sequences
that agree under every key lead a store to the same lists, and every event fares the same in both.

* `applyEvents`, `answers` -- events one after another: the store after them, and what was said of
  each;
* `ChangeEvent.verdict` -- what is said of an event, in which the store has no part (`answers_eq`);
* `find_applyEvents` -- events, seen from one item; `amendAll_under` -- the item sees only those under
  its key;
* `AgreeUnderKeys` -- sequences with the same events in the same order under every key;
* `Agree`, `agree_of_keys` -- what they have in common.
-/

namespace Catalogue

/-! ## 1. Events in order -/

section

variable {σ α : Type} [Entity α]

/-- The store after events have been applied one after another. -/
def applyEvents (access : StoreAccess σ α) (es : List (ChangeEvent α)) (s : σ) : σ :=
  es.foldl (fun s e => (applyEvent access e s).2) s

/-- What is said of events that are applied one after another, each with its event. -/
def answers (access : StoreAccess σ α) :
    List (ChangeEvent α) → σ → List (ChangeEvent α × Except ProcessingError Unit)
  | [], _ => []
  | e :: es, s => (e, (applyEvent access e s).1) :: answers access es (applyEvent access e s).2

/-- What is said of an event: it fails if it creates an entity that belongs to another item. -/
def ChangeEvent.verdict (e : ChangeEvent α) : Except ProcessingError Unit :=
  match e.action with
  | .create a =>
    if Entity.itemId a = e.key then .ok ()
    else .error (.keyMismatch e.key.val (Entity.itemId a).val)
  | .delete => .ok ()

end

namespace Store

variable {α : Type} [Entity α]

/-- **What is said of an event does not depend on the store.** -/
theorem fst_applyEvent (e : ChangeEvent α) (s : Store α) :
    (applyEvent .local_ e s).1 = e.verdict := by
  obtain ⟨key, action, at_⟩ := e
  cases action with
  | create a =>
    simp only [applyEvent, ChangeEvent.verdict]
    split
    · rfl
    · rfl
  | delete => rfl

theorem answers_eq (es : List (ChangeEvent α)) (s : Store α) :
    answers .local_ es s = es.map fun e => (e, e.verdict) := by
  induction es generalizing s with
  | nil => rfl
  | cons e es ih => rw [answers, fst_applyEvent, ih, List.map_cons]

/-- **A run of events changes the list of an item by their effects on the item.** -/
theorem find_applyEvents (es : List (ChangeEvent α)) (s : Store α) (item : ItemId) :
    (applyEvents .local_ es s).find item = amendAll (es.map (effectOf item)) (s.find item) := by
  induction es generalizing s with
  | nil => rfl
  | cons e es ih =>
    have h := ih (applyEvent .local_ e s).2
    rw [find_applyEvent] at h
    exact h

theorem Reachable.applyEvents {s : Store α} (h : s.Reachable) (es : List (ChangeEvent α)) :
    (applyEvents .local_ es s).Reachable := by
  induction es generalizing s with
  | nil => exact h
  | cons e es ih => exact ih (h.applyEvent e)

/-- An item sees only the events under its key. -/
theorem amendAll_under (item : ItemId) (es : List (ChangeEvent α)) (l : List α) :
    amendAll ((es.filter fun e => e.key == item).map (effectOf item)) l =
      amendAll (es.map (effectOf item)) l := by
  refine amendAll_filter _ _ _ (fun e _ hkey => ?_) l
  rw [effectOf, if_neg (by simpa using hkey)]

/-! ## 2. Sequences that agree under every key -/

/-- Whether two sequences have the same events in the same order under every key. Events under
    different keys may change places, over any distance. -/
def AgreeUnderKeys (es es' : List (ChangeEvent α)) : Prop :=
  ∀ key, (es.filter fun e => e.key == key) = es'.filter fun e => e.key == key

/-- **What two sequences of events have in common**, from one store on. -/
structure Agree (es es' : List (ChangeEvent α)) (s : Store α) : Prop where
  /-- Every item has the same list, in the same order. -/
  find : ∀ item,
    (applyEvents .local_ es s).find item = (applyEvents .local_ es' s).find item
  /-- There are as many entities. -/
  len : (applyEvents .local_ es s).len = (applyEvents .local_ es' s).len
  /-- Under every key the same is said of the same events, in the same order. -/
  answer : ∀ key, ((answers .local_ es s).filter fun x => x.1.key == key) =
    (answers .local_ es' s).filter fun x => x.1.key == key
  /-- An event succeeds, or it is told which two items do not match. -/
  verdict : ∀ x ∈ answers .local_ es s, x.2 = x.1.verdict

/-- **Only the order within a key matters.** -/
theorem agree_of_keys {s : Store α} (hs : s.Reachable) {es es' : List (ChangeEvent α)}
    (h : AgreeUnderKeys es es') : Agree es es' s := by
  have hfind : ∀ item,
      (applyEvents .local_ es s).find item = (applyEvents .local_ es' s).find item := by
    intro item
    rw [find_applyEvents, find_applyEvents, ← amendAll_under, h item, amendAll_under]
  refine ⟨hfind, ?_, fun key => ?_, fun x hx => ?_⟩
  · exact len_eq_of_find_eq (hs.applyEvents es).keyed (hs.applyEvents es').keyed hfind
  · rw [answers_eq, answers_eq, List.filter_map, List.filter_map]
    exact congrArg _ (h key)
  · rw [answers_eq] at hx
    obtain ⟨e, -, rfl⟩ := List.mem_map.mp hx
    rfl

/-- Two items whose events are sent in turn, or first those of one and then those of the other. Each
    has a review replaced, one a create of a review of the other, and one a delete. -/
theorem agree_of_keys_in_turn :
    let item : ItemId := ⟨7, by decide, by decide⟩
    let other : ItemId := ⟨8, by decide, by decide⟩
    let now : Instant := ⟨⟨2024, 1, 1, by decide⟩, ⟨0, 0, 0, 0, by decide, by decide, by decide,
      by decide, by decide⟩⟩
    let review (parent : ItemId) (id : Int64) (content : String) : Review :=
      ⟨parent, id, "ann", "lamp", content, none⟩
    let create (key : ItemId) (r : Review) : ChangeEvent Review := ⟨key, .create r, now⟩
    let s : Store Review := Store.empty.upsert (review item 2 "dim")
    let es := [create item (review item 1 "good"), create other (review other 1 "good"),
      create item (review other 3 "lost"), create other (review other 2 "fine"), ⟨item, .delete, now⟩,
      create other (review other 1 "bad"), create item (review item 4 "late")]
    let es' := [create other (review other 1 "good"), create other (review other 2 "fine"),
      create other (review other 1 "bad"), create item (review item 1 "good"),
      create item (review other 3 "lost"), ⟨item, .delete, now⟩, create item (review item 4 "late")]
    s.Reachable ∧ AgreeUnderKeys es es' ∧ Agree es es' s := by
  intro item other now review create s es es'
  have hs : s.Reachable := .upsert .empty _
  have hkeys : AgreeUnderKeys es es' := by
    intro key
    by_cases hitem : key = item
    · subst hitem
      rfl
    by_cases hother : key = other
    · subst hother
      rfl
    have hnone : ∀ e ∈ es ++ es', ¬ (e.key == key) = true := by
      simp [es, es', create, Ne.symm hitem, Ne.symm hother]
    rw [List.filter_eq_nil_iff.mpr fun e he => hnone e (List.mem_append_left _ he),
      List.filter_eq_nil_iff.mpr fun e he => hnone e (List.mem_append_right _ he)]
  exact ⟨hs, hkeys, agree_of_keys hs hkeys⟩

end Store

end Catalogue
