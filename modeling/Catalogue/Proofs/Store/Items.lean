import Catalogue.Proofs.Consumer.Poll

/-!
# A store, item by item

All that a store shows of an item is the list of its entities. This file says what the changes do
to these lists, and nothing else about stores is used later.

* `find_upsert`, `find_deleteAll` -- a change touches the list of one item;
* `Reachable` -- the stores that changes lead to; in them no item stands twice (`Reachable.keyed`),
  so the number of entities is known from the lists (`len_eq_of_find_eq`);
* `edit`, `effectOf`, `effectOn` -- what an event does to a list, and what an event or a payload asks
  of an item;
* `amendAll_filter` -- what asks nothing of an item may be left out;
* `find_applyEvent` -- an event, seen from one item;
* `find_processPayload`, `find_replay` -- a record and a run of records, seen from one item.
-/

namespace Catalogue

namespace Store

variable {α : Type}

/-! ## 1. Changes -/

theorem find?_updateItem (item : ItemId) (f : List α → List α) (es : List (ItemId × List α))
    (k : ItemId) :
    (((updateItem item f es).find? fun e => e.1 == k).map Prod.snd).getD [] =
      if k = item then f (((es.find? fun e => e.1 == k).map Prod.snd).getD [])
      else ((es.find? fun e => e.1 == k).map Prod.snd).getD [] := by
  induction es with
  | nil =>
    by_cases h : k = item
    · simp [updateItem, h]
    · have h' : ¬ item = k := fun e => h e.symm
      simp [updateItem, h, h']
  | cons e es ih =>
    rw [updateItem]
    by_cases he : e.1 = item
    · rw [if_pos he]
      by_cases h : k = item
      · simp [h, he]
      · have h' : ¬ item = k := fun e => h e.symm
        simp [h, he, h']
    · rw [if_neg he]
      by_cases hk : e.1 = k
      · have h : ¬ k = item := fun e' => he (hk.trans e')
        simp [hk, h]
      · rw [List.find?_cons_of_neg (by simpa using hk), ih,
          List.find?_cons_of_neg (by simpa using hk)]

/-- **An upsert places the entity among those of its item.** -/
theorem find_upsert [Entity α] (s : Store α) (a : α) (k : ItemId) :
    (s.upsert a).find k = if k = Entity.itemId a then place a (s.find k) else s.find k :=
  find?_updateItem (Entity.itemId a) (place a) s.entries k

/-- **A delete empties the list of its item.** -/
theorem find_deleteAll (s : Store α) (item k : ItemId) :
    (s.deleteAll item).1.find k = if k = item then [] else s.find k := by
  unfold find deleteAll
  by_cases h : k = item
  · subst h
    have hnone : (s.entries.filter fun e => e.1 ≠ k).find? (fun e => e.1 == k) = none := by
      rw [List.find?_eq_none]
      intro e he
      simpa using (List.mem_filter.mp he).2
    rw [if_pos rfl, hnone]
    rfl
  · rw [if_neg h, List.find?_filter]
    congr 3
    funext e
    by_cases he : e.1 = k
    · simp [he, h]
    · simp [he]

/-! ## 2. Counting -/

/-- No item stands twice. -/
def Keyed (s : Store α) : Prop := (s.entries.map Prod.fst).Nodup

theorem map_fst_updateItem (item : ItemId) (f : List α → List α) (es : List (ItemId × List α)) :
    (updateItem item f es).map Prod.fst =
      if item ∈ es.map Prod.fst then es.map Prod.fst else es.map Prod.fst ++ [item] := by
  induction es with
  | nil => rfl
  | cons e es ih =>
    rw [updateItem]
    by_cases he : e.1 = item
    · simp [he]
    · have he' : ¬ item = e.1 := fun h => he h.symm
      rw [if_neg he, List.map_cons, ih]
      by_cases hm : item ∈ es.map Prod.fst
      · simp [hm, he']
      · simp [hm, he']

theorem Keyed.upsert [Entity α] {s : Store α} (h : s.Keyed) (a : α) : (s.upsert a).Keyed := by
  unfold Keyed Store.upsert
  rw [map_fst_updateItem]
  split
  · exact h
  · rename_i hm
    rw [List.nodup_append]
    refine ⟨h, by simp, fun k hk j hj e => hm ?_⟩
    rw [List.mem_singleton] at hj
    rwa [← hj, ← e]

theorem Keyed.deleteAll {s : Store α} (h : s.Keyed) (item : ItemId) :
    (s.deleteAll item).1.Keyed :=
  List.Nodup.sublist (List.filter_sublist.map Prod.fst) h

/-- The stores that changes lead to. -/
inductive Reachable [Entity α] : Store α → Prop where
  | empty : Reachable .empty
  | upsert {s : Store α} (h : Reachable s) (a : α) : Reachable (s.upsert a)
  | deleteAll {s : Store α} (h : Reachable s) (item : ItemId) : Reachable (s.deleteAll item).1

theorem Reachable.keyed [Entity α] {s : Store α} (h : s.Reachable) : s.Keyed := by
  induction h with
  | empty => exact List.nodup_nil
  | upsert _ a ih => exact ih.upsert a
  | deleteAll _ item ih => exact ih.deleteAll item

theorem find_cons_self (k : ItemId) (l : List α) (es : List (ItemId × List α)) :
    find ⟨(k, l) :: es⟩ k = l := by
  simp [find]

theorem find_cons_ne {k j : ItemId} (h : k ≠ j) (l : List α) (es : List (ItemId × List α)) :
    find ⟨(k, l) :: es⟩ j = find ⟨es⟩ j := by
  simp [find, h]

theorem find_eq_nil_of_not_mem {s : Store α} {k : ItemId} (h : k ∉ s.entries.map Prod.fst) :
    s.find k = [] := by
  have hnone : s.entries.find? (fun e => e.1 == k) = none := by
    rw [List.find?_eq_none]
    intro e he hk
    exact h (List.mem_map.mpr ⟨e, he, by simpa using hk⟩)
  rw [find, hnone]
  rfl

/-- The entities of one item, and those of all others. -/
theorem len_deleteAll {s : Store α} (h : s.Keyed) (k : ItemId) :
    s.len = (s.find k).length + (s.deleteAll k).1.len := by
  obtain ⟨es⟩ := s
  induction es with
  | nil => rfl
  | cons e es ih =>
    obtain ⟨j, l⟩ := e
    obtain ⟨hj, hes⟩ := List.nodup_cons.mp h
    have hlen : len ⟨(j, l) :: es⟩ = l.length + len ⟨es⟩ := rfl
    have hrest := ih hes
    by_cases hjk : j = k
    · subst hjk
      have hnil : find ⟨es⟩ j = [] := find_eq_nil_of_not_mem hj
      have hdel : (deleteAll ⟨(j, l) :: es⟩ j).1 = (deleteAll ⟨es⟩ j).1 := by simp [deleteAll]
      rw [hlen, find_cons_self, hdel, hrest, hnil, List.length_nil, Nat.zero_add]
    · have hdel : (deleteAll ⟨(j, l) :: es⟩ k).1 = ⟨(j, l) :: (deleteAll ⟨es⟩ k).1.entries⟩ := by
        simp [deleteAll, hjk]
      have hlen' : len ⟨(j, l) :: (deleteAll ⟨es⟩ k).1.entries⟩ =
          l.length + (deleteAll ⟨es⟩ k).1.len := rfl
      rw [hlen, find_cons_ne hjk, hdel, hlen', hrest]
      omega

/-- **Stores with the same lists have the same number of entities.** -/
theorem len_eq_of_find_eq {s s' : Store α} (hs : s.Keyed) (hs' : s'.Keyed)
    (h : ∀ k, s.find k = s'.find k) : s.len = s'.len := by
  obtain ⟨es⟩ := s
  induction es generalizing s' with
  | nil =>
    obtain ⟨es'⟩ := s'
    induction es' with
    | nil => rfl
    | cons e es' ih =>
      obtain ⟨j, l⟩ := e
      obtain ⟨hj, hes'⟩ := List.nodup_cons.mp hs'
      have hl : l = [] := by rw [← find_cons_self j l es', ← h j]; rfl
      have hlen : len ⟨(j, l) :: es'⟩ = len ⟨es'⟩ := by
        rw [hl]
        exact Nat.zero_add _
      rw [hlen]
      refine ih hes' fun k => ?_
      by_cases hk : j = k
      · subst hk
        exact (find_eq_nil_of_not_mem hj).symm
      · rw [h k, find_cons_ne hk]
  | cons e es ih =>
    obtain ⟨j, l⟩ := e
    obtain ⟨hj, hes⟩ := List.nodup_cons.mp hs
    have hlen : len ⟨(j, l) :: es⟩ = l.length + len ⟨es⟩ := rfl
    have hfind : s'.find j = l := by rw [← h j, find_cons_self]
    -- the item goes from both stores, and what is left agrees again
    rw [hlen, len_deleteAll hs' j, hfind]
    refine congrArg (l.length + ·) (ih (hs'.deleteAll j) hes fun k => ?_)
    rw [find_deleteAll]
    by_cases hk : k = j
    · rw [if_pos hk, hk]
      exact find_eq_nil_of_not_mem hj
    · rw [if_neg hk, ← h k, find_cons_ne (Ne.symm hk)]

/-! ## 3. Records, seen from an item -/

variable [Entity α]

/-- What an action does to the list of its item. -/
def edit : Action α → List α → List α
  | .create a, l => place a l
  | .delete, _ => []

/-- What a payload asks of an item: nothing if it is malformed, about another item, or a create
    whose entity belongs to another item. -/
def effectOn (entity : Json.Codec α) (item : ItemId) (payload : Bytes) : Option (Action α) :=
  match (Json.Codec.changeEvent entity).decode payload with
  | .error _ => none
  | .ok e =>
    if e.key = item then
      match e.action with
      | .create a => if Entity.itemId a = item then some (.create a) else none
      | .delete => some .delete
    else none

/-- What an event asks of an item: nothing if it is about another item, or a create whose entity
    belongs to another item. -/
def effectOf (item : ItemId) (e : ChangeEvent α) : Option (Action α) :=
  if e.key = item then
    match e.action with
    | .create a => if Entity.itemId a = item then some (.create a) else none
    | .delete => some .delete
  else none

/-- A payload asks what its event does. -/
theorem effectOn_of_decode {entity : Json.Codec α} {payload : Bytes} {e : ChangeEvent α}
    (h : (Json.Codec.changeEvent entity).decode payload = .ok e) (item : ItemId) :
    effectOn entity item payload = effectOf item e := by
  simp only [effectOn, h]
  rfl

/-- What an effect, or none, does to a list. -/
def amend : Option (Action α) → List α → List α
  | some action, l => edit action l
  | none, l => l

/-- What effects do to a list, in order. -/
def amendAll (effects : List (Option (Action α))) (l : List α) : List α :=
  effects.foldl (fun l e => amend e l) l

@[simp] theorem amendAll_cons (e : Option (Action α)) (es : List (Option (Action α)))
    (l : List α) : amendAll (e :: es) l = amendAll es (amend e l) := rfl

theorem amendAll_append (es es' : List (Option (Action α))) (l : List α) :
    amendAll (es ++ es') l = amendAll es' (amendAll es l) := List.foldl_append

/-- Where nothing is asked, nothing changes. -/
theorem amendAll_of_none {es : List (Option (Action α))} (h : ∀ e ∈ es, e = none) (l : List α) :
    amendAll es l = l := by
  induction es with
  | nil => rfl
  | cons e es ih =>
    rw [amendAll_cons, h e List.mem_cons_self]
    exact ih fun e' he => h e' (List.mem_cons_of_mem e he)

/-- What asks nothing may be left out. -/
theorem amendAll_filter {β : Type} (f : β → Option (Action α)) (q : β → Bool) (bs : List β)
    (h : ∀ b ∈ bs, q b = false → f b = none) (l : List α) :
    amendAll ((bs.filter q).map f) l = amendAll (bs.map f) l := by
  induction bs generalizing l with
  | nil => rfl
  | cons b bs ih =>
    have ih := ih fun b' hb => h b' (List.mem_cons_of_mem b hb)
    cases hq : q b with
    | true => rw [List.filter_cons_of_pos hq, List.map_cons, List.map_cons, amendAll_cons,
        amendAll_cons, ih]
    | false =>
      rw [List.filter_cons_of_neg (by simp [hq]), List.map_cons, amendAll_cons,
        h b List.mem_cons_self hq, ih]
      rfl

/-- **An event changes the list of an item by its effect on the item.** -/
theorem find_applyEvent (e : ChangeEvent α) (s : Store α) (item : ItemId) :
    (applyEvent .local_ e s).2.find item = amend (effectOf item e) (s.find item) := by
  obtain ⟨key, action, at_⟩ := e
  cases action with
  | create a =>
    simp only [applyEvent, effectOf]
    by_cases ha : Entity.itemId a = key
    · rw [if_pos ha]
      by_cases hk : key = item
      · subst hk
        simp [StoreAccess.local_, find_upsert, ha, amend, edit]
      · have hk' : ¬ item = key := fun e => hk e.symm
        simp [StoreAccess.local_, find_upsert, ha, hk, hk', amend]
    · rw [if_neg ha]
      by_cases hk : key = item
      · subst hk
        simp [ha, amend]
      · simp [hk, amend]
  | delete =>
    simp only [applyEvent, effectOf, StoreAccess.local_]
    rw [find_deleteAll]
    by_cases hk : key = item
    · simp [hk, amend, edit]
    · have hk' : ¬ item = key := fun e => hk e.symm
      simp [hk, hk', amend]

/-- Events lead from reachable stores to reachable stores. -/
theorem Reachable.applyEvent (e : ChangeEvent α) {s : Store α} (h : s.Reachable) :
    (applyEvent .local_ e s).2.Reachable := by
  obtain ⟨key, action, at_⟩ := e
  cases action with
  | create a =>
    simp only [Catalogue.applyEvent]
    split
    · exact h.upsert a
    · exact h
  | delete => exact h.deleteAll key

/-- **A record changes the list of an item by its effect on the item.** -/
theorem find_processPayload (entity : Json.Codec α) (payload : Bytes) (s : Store α)
    (item : ItemId) :
    (processPayload entity .local_ payload s).2.find item =
      amend (effectOn entity item payload) (s.find item) := by
  cases hdecode : (Json.Codec.changeEvent entity).decode payload with
  | error fault =>
    simp only [processPayload, effectOn, hdecode]
    rfl
  | ok e =>
    simp only [processPayload, hdecode, effectOn_of_decode hdecode]
    exact find_applyEvent e s item

/-- Processing leads from reachable stores to reachable stores. -/
theorem Reachable.processPayload (entity : Json.Codec α) (payload : Bytes) {s : Store α}
    (h : s.Reachable) : (processPayload entity .local_ payload s).2.Reachable := by
  unfold Catalogue.processPayload
  split
  · exact h
  · exact h.applyEvent _

/-- **A run of records changes the list of an item by their effects on the item.** -/
theorem find_replay (entity : Json.Codec α) (rs : List Record) (s : Store α) (item : ItemId) :
    (replay (processPayload entity .local_) rs s).find item =
      amendAll (rs.map fun r => effectOn entity item r.payload) (s.find item) := by
  induction rs generalizing s with
  | nil => rfl
  | cons r rs ih =>
    have h := ih (processPayload entity .local_ r.payload s).2
    rw [find_processPayload] at h
    exact h

theorem Reachable.replay (entity : Json.Codec α) {s : Store α} (h : s.Reachable)
    (rs : List Record) :
    (Catalogue.replay (Catalogue.processPayload entity .local_) rs s).Reachable := by
  induction rs generalizing s with
  | nil => exact h
  | cons r rs ih => exact ih (h.processPayload entity r.payload)

end Store

end Catalogue
