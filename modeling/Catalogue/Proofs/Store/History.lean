import Mathlib.Algebra.BigOperators.Finprod
import Mathlib.Data.List.DropRight
import Catalogue.Proofs.Store.Items

/-!
# What a store holds is its history

A store shows lists and numbers; both can be read off the changes it has seen. Of an item only the
changes since it was last emptied count, and of those with one id the first decides the place and
the last the value.

* `Change`, `Store.ofHistory` -- changes, and the store that they lead to (`reachable_iff`: there are
  no others);
* `placedSince` -- the entities placed under an item since it was last emptied;
* `Reflects` -- how a list of entities reflects those that were placed, `Reflects.place` -- one more
  (that ids are distinct is what makes the first match the only one, `mem_place`);
* `reflects_ofHistory` -- every list of every store;
* `len_eq_finsum`, `isEmpty_iff` -- all items together;
* `Recorded`, `recorded_ofHistory` -- all that a store shows.
-/

namespace Catalogue

/-- A change of a store. -/
inductive Change (α : Type) where
  | upsert (entity : α)
  | deleteAll (item : ItemId)
  deriving DecidableEq, Repr

namespace Change

variable {α : Type}

/-- Whether a change empties an item. -/
def empties (k : ItemId) : Change α → Bool
  | .upsert _ => false
  | .deleteAll item => item == k

/-- The entity that a change places under an item, if it does. -/
def placed? [Entity α] (k : ItemId) : Change α → Option α
  | .upsert a => if Entity.itemId a = k then some a else none
  | .deleteAll _ => none

end Change

namespace Store

variable {α : Type} [Entity α]

/-! ## 1. Histories -/

/-- The store after a change. -/
def perform (s : Store α) : Change α → Store α
  | .upsert a => s.upsert a
  | .deleteAll item => (s.deleteAll item).1

/-- The store that changes lead to from the empty one. -/
def ofHistory (h : List (Change α)) : Store α := h.foldl perform .empty

theorem ofHistory_concat (h : List (Change α)) (c : Change α) :
    ofHistory (h ++ [c]) = (ofHistory h).perform c := List.foldl_concat ..

/-- **Every store has a history.** -/
theorem reachable_iff {s : Store α} : s.Reachable ↔ ∃ h, s = ofHistory h := by
  constructor
  · intro hs
    induction hs with
    | empty => exact ⟨[], rfl⟩
    | upsert _ a ih =>
      obtain ⟨h, rfl⟩ := ih
      refine ⟨h ++ [.upsert a], ?_⟩
      rw [ofHistory_concat, perform]
    | deleteAll _ item ih =>
      obtain ⟨h, rfl⟩ := ih
      refine ⟨h ++ [.deleteAll item], ?_⟩
      rw [ofHistory_concat, perform]
  · intro hs
    obtain ⟨h, rfl⟩ := hs
    induction h using List.reverseRecOn with
    | nil => exact .empty
    | append_singleton h c ih =>
      rw [ofHistory_concat]
      cases c with
      | upsert a => exact ih.upsert a
      | deleteAll item => exact ih.deleteAll item

/-- **The entities placed under an item since it was last emptied**, in order. -/
def placedSince (k : ItemId) (h : List (Change α)) : List α :=
  (h.rtakeWhile fun c => !c.empties k).filterMap (Change.placed? k)

theorem placedSince_upsert (k : ItemId) (h : List (Change α)) (a : α) :
    placedSince k (h ++ [.upsert a]) =
      if Entity.itemId a = k then placedSince k h ++ [a] else placedSince k h := by
  rw [placedSince, List.rtakeWhile_concat_pos _ _ _ rfl, List.filterMap_append]
  by_cases ha : Entity.itemId a = k
  · simp [Change.placed?, ha, placedSince]
  · simp [Change.placed?, ha, placedSince]

theorem placedSince_deleteAll (k : ItemId) (h : List (Change α)) (item : ItemId) :
    placedSince k (h ++ [.deleteAll item]) = if item = k then [] else placedSince k h := by
  by_cases hk : item = k
  · simp [placedSince, Change.empties, hk]
  · simp [placedSince, Change.empties, Change.placed?, hk]

theorem itemId_of_mem_placedSince {k : ItemId} {h : List (Change α)} {a : α}
    (ha : a ∈ placedSince k h) : Entity.itemId a = k := by
  obtain ⟨c, -, hc⟩ := List.mem_filterMap.mp ha
  cases c with
  | upsert b =>
    by_cases hb : Entity.itemId b = k
    · rw [Change.placed?, if_pos hb, Option.some.injEq] at hc
      rwa [← hc]
    · rw [Change.placed?, if_neg hb] at hc
      cases hc
  | deleteAll item => cases hc

/-! ## 2. One list -/

/-- Placing an entity keeps the ids, and adds that of the entity at the end if it is new. -/
theorem map_entityId_place (a : α) (l : List α) :
    (place a l).map Entity.entityId =
      if Entity.entityId a ∈ l.map Entity.entityId then l.map Entity.entityId
      else l.map Entity.entityId ++ [Entity.entityId a] := by
  induction l with
  | nil => rfl
  | cons b l ih =>
    rw [place]
    by_cases hb : Entity.entityId b = Entity.entityId a
    · simp [hb]
    · have hb' : ¬ Entity.entityId a = Entity.entityId b := fun e => hb e.symm
      rw [if_neg hb, List.map_cons, ih]
      split
      · next hm => simp [hm]
      · next hm => simp [hm, hb']

/-- **Where ids are distinct, a placed entity replaces all with its id.** -/
theorem mem_place {a c : α} {l : List α} (hl : (l.map Entity.entityId).Nodup)
    (hc : c ∈ place a l) : c = a ∨ c ∈ l ∧ Entity.entityId c ≠ Entity.entityId a := by
  induction l with
  | nil => exact .inl (List.mem_singleton.mp hc)
  | cons b l ih =>
    obtain ⟨hb, hrest⟩ := List.nodup_cons.mp hl
    rw [place] at hc
    by_cases hba : Entity.entityId b = Entity.entityId a
    · rw [if_pos hba] at hc
      rcases List.mem_cons.mp hc with rfl | hc
      · exact .inl rfl
      · refine .inr ⟨List.mem_cons_of_mem b hc, fun hca => hb ?_⟩
        rw [hba, ← hca]
        exact List.mem_map_of_mem hc
    · rw [if_neg hba] at hc
      rcases List.mem_cons.mp hc with rfl | hc
      · exact .inr ⟨List.mem_cons_self, hba⟩
      · rcases ih hrest hc with rfl | ⟨hc, hca⟩
        · exact .inl rfl
        · exact .inr ⟨List.mem_cons_of_mem b hc, hca⟩

/-- **How a list reflects the entities that were placed in it**: there is one for each of their ids,
    in the order in which the ids first came, and each is the last that came with its id. -/
structure Reflects (placed found : List α) : Prop where
  ids : found.map Entity.entityId = (placed.map Entity.entityId).eraseDups
  distinct : (found.map Entity.entityId).Nodup
  latest : ∀ a ∈ found, ∃ before after, placed = before ++ a :: after ∧
    ∀ b ∈ after, Entity.entityId b ≠ Entity.entityId a

namespace Reflects

variable {placed found : List α}

theorem nil : Reflects ([] : List α) [] := ⟨rfl, List.nodup_nil, nofun⟩

/-- **One more entity.** -/
theorem place (h : Reflects placed found) (a : α) :
    Reflects (placed ++ [a]) (place a found) where
  ids := by
    rw [map_entityId_place, List.map_append, List.eraseDups_append, h.ids, List.map_singleton,
      List.cons_removeAll, List.nil_removeAll]
    by_cases ha : Entity.entityId a ∈ placed.map Entity.entityId
    · rw [if_pos (List.mem_eraseDups.mpr ha), List.contains_iff_mem.mpr ha]
      exact (List.append_nil _).symm
    · rw [if_neg fun hm => ha (List.mem_eraseDups.mp hm), if_pos (by simpa using ha)]
      rfl
  distinct := by
    rw [map_entityId_place]
    split
    · exact h.distinct
    · next ha => exact List.nodup_append.mpr ⟨h.distinct, by simp, by simpa using ha⟩
  latest c hc := by
    rcases mem_place h.distinct hc with rfl | ⟨hc, hne⟩
    · exact ⟨placed, [], rfl, nofun⟩
    · obtain ⟨before, after, rfl, hafter⟩ := h.latest c hc
      refine ⟨before, after ++ [a], by simp, fun b hb => ?_⟩
      rcases List.mem_append.mp hb with hb | hb
      · exact hafter b hb
      · rw [List.mem_singleton.mp hb]
        exact Ne.symm hne

/-- Nothing is found that was not placed. -/
theorem mem_placed (h : Reflects placed found) {a : α} (ha : a ∈ found) : a ∈ placed := by
  obtain ⟨before, after, rfl, -⟩ := h.latest a ha
  exact List.mem_append_right _ List.mem_cons_self

/-- Where all placed entities have one id, there is at most one. -/
theorem length_le_one (h : Reflects placed found) (id : Int)
    (hid : ∀ a ∈ placed, Entity.entityId a = id) : found.length ≤ 1 := by
  match found, h with
  | [], _ => exact Nat.zero_le 1
  | [a], _ => exact Nat.le_refl 1
  | a :: b :: rest, h =>
    have ha := hid a (h.mem_placed List.mem_cons_self)
    have hb := hid b (h.mem_placed (List.mem_cons_of_mem a List.mem_cons_self))
    have hne := (List.nodup_cons.mp h.distinct).1
    exact absurd (ha.trans hb.symm) fun e => hne (e ▸ List.mem_cons_self)

end Reflects

/-- **Every list of every store reflects what was placed under its item since it was last
    emptied.** -/
theorem reflects_ofHistory (h : List (Change α)) (k : ItemId) :
    Reflects (placedSince k h) ((ofHistory h).find k) := by
  induction h using List.reverseRecOn with
  | nil => exact .nil
  | append_singleton h c ih =>
    rw [ofHistory_concat]
    cases c with
    | upsert a =>
      rw [perform, find_upsert, placedSince_upsert]
      by_cases ha : Entity.itemId a = k
      · rw [if_pos ha, if_pos ha.symm]
        exact ih.place a
      · rw [if_neg ha, if_neg (Ne.symm ha)]
        exact ih
    | deleteAll item =>
      rw [perform, find_deleteAll, placedSince_deleteAll]
      by_cases hk : item = k
      · rw [if_pos hk, if_pos hk.symm]
        exact .nil
      · rw [if_neg hk, if_neg (Ne.symm hk)]
        exact ih

/-- A review that comes again keeps its place, and one that comes after a delete has a new one. -/
example :
    let item : ItemId := ⟨7, by decide, by decide⟩
    let other : ItemId := ⟨8, by decide, by decide⟩
    let review (parent : ItemId) (id : Int64) (content : String) : Review :=
      ⟨parent, id, "ann", "lamp", content, none⟩
    let s := ofHistory [.upsert (review item 1 "good"), .upsert (review other 1 "good"),
      .upsert (review item 2 "dim"), .upsert (review other 2 "dim"), .deleteAll other,
      .upsert (review item 1 "bad"), .upsert (review other 2 "fine"), .upsert (review other 1 "bad")]
    s.find item = [review item 1 "bad", review item 2 "dim"] ∧
      s.find other = [review other 2 "fine", review other 1 "bad"] := by
  decide

/-! ## 3. All items together -/

section

omit [Entity α]

/-- Few items have entities at all. -/
theorem finite_items (s : Store α) : {k | s.find k ≠ []}.Finite := by
  refine Set.Finite.subset (List.finite_toSet (s.entries.map Prod.fst)) fun k hk => ?_
  exact Classical.byContradiction fun hm => hk (find_eq_nil_of_not_mem hm)

/-- **The entities of a store are those of all its items.** -/
theorem len_eq_finsum {s : Store α} (h : s.Keyed) : s.len = ∑ᶠ k, (s.find k).length := by
  obtain ⟨es⟩ := s
  induction es with
  | nil => exact finsum_zero.symm
  | cons e es ih =>
    obtain ⟨j, l⟩ := e
    obtain ⟨hj, hes⟩ := List.nodup_cons.mp h
    have hfind : ∀ k, (find ⟨(j, l) :: es⟩ k).length =
        (if k = j then l.length else 0) + (find ⟨es⟩ k).length := by
      intro k
      by_cases hk : k = j
      · subst hk
        rw [find_cons_self, if_pos rfl, find_eq_nil_of_not_mem hj, List.length_nil, Nat.add_zero]
      · rw [find_cons_ne (Ne.symm hk), if_neg hk, Nat.zero_add]
    have hone : ∑ᶠ k, (if k = j then l.length else 0) = l.length := by
      rw [finsum_eq_single _ j fun k hk => if_neg hk, if_pos rfl]
    have hsum : ∑ᶠ k, ((if k = j then l.length else 0) + (find ⟨es⟩ k).length) =
        l.length + ∑ᶠ k, (find ⟨es⟩ k).length := by
      rw [finsum_add_distrib, hone]
      · exact Set.Finite.subset (Set.finite_singleton j) fun k hk =>
          Classical.byContradiction fun hne => hk (if_neg hne)
      · exact Set.Finite.subset (finite_items ⟨es⟩) fun k hk hnil =>
          hk (List.length_eq_zero_iff.mpr hnil)
    calc len ⟨(j, l) :: es⟩ = l.length + len ⟨es⟩ := rfl
      _ = l.length + ∑ᶠ k, (find ⟨es⟩ k).length := by rw [ih hes]
      _ = ∑ᶠ k, (find ⟨(j, l) :: es⟩ k).length := by rw [← hsum, finsum_congr hfind]

/-- **A store is empty if no item has entities.** -/
theorem isEmpty_iff {s : Store α} (h : s.Keyed) : s.isEmpty = true ↔ ∀ k, s.find k = [] := by
  rw [isEmpty, beq_iff_eq]
  constructor
  · intro hlen k
    have hparts := len_deleteAll h k
    exact List.length_eq_zero_iff.mp (by omega)
  · intro hnil
    rw [len_eq_finsum h]
    simp [hnil]

end

/-! ## 4. All that a store shows -/

/-- **What a store shows of its history.** -/
structure Recorded (h : List (Change α)) : Prop where
  /-- Every item has one entity for each id that came under it since it was last emptied, in the order
      of the ids' first coming, and with the value that came last. -/
  listed : ∀ k, Reflects (placedSince k h) ((ofHistory h).find k)
  /-- Every entity is listed under its own item. -/
  own : ∀ k, ∀ a ∈ (ofHistory h).find k, Entity.itemId a = k
  /-- A delete says how many entities its item had. -/
  deleted : ∀ k, ((ofHistory h).deleteAll k).2 = ((ofHistory h).find k).length
  /-- A delete changes no other item. -/
  others : ∀ k j, j ≠ k → ((ofHistory h).deleteAll k).1.find j = (ofHistory h).find j
  /-- Few items have entities, and the number of entities is the sum over them. -/
  finite : {k | (ofHistory h).find k ≠ []}.Finite
  len : (ofHistory h).len = ∑ᶠ k, ((ofHistory h).find k).length
  /-- The store is empty if all its lists are. -/
  isEmpty : (ofHistory h).isEmpty = true ↔ ∀ k, (ofHistory h).find k = []

/-- **What a store holds is its history**, for the entities of any domain; and a store of products has
    at most one for each item. -/
theorem recorded_ofHistory :
    (∀ {α : Type} [Entity α] (h : List (Change α)), Recorded h) ∧
      ∀ (h : List (Change Product)) (k : ItemId), ((ofHistory h).find k).length ≤ 1 := by
  constructor
  · intro α _ h
    have hkeyed : (ofHistory h).Keyed := (reachable_iff.mpr ⟨h, rfl⟩).keyed
    exact
      { listed := reflects_ofHistory h
        own k a ha := itemId_of_mem_placedSince ((reflects_ofHistory h k).mem_placed ha)
        deleted _ := rfl
        others k j hj := by rw [find_deleteAll, if_neg hj]
        finite := finite_items _
        len := len_eq_finsum hkeyed
        isEmpty := isEmpty_iff hkeyed }
  · intro h k
    refine (reflects_ofHistory h k).length_le_one k.val fun p hp => ?_
    have hitem : p.itemId = k := itemId_of_mem_placedSince hp
    rw [← hitem]
    rfl

end Store

end Catalogue
