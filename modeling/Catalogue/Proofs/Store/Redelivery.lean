import Catalogue.Proofs.Store.Items

/-!
# Redelivery

A transport may deliver a record again, and with it all the records after it. A store that sees
such a delivery ends as if every record had come once: what a rewind undoes, the records after it
do again.

* `Delivered` -- a cursor over a list of records that moves on by one or back by any number;
* `place_place`, `place_comm`, `amendAll_place` -- an entity that comes again is placed where it
  stands, and records in between do not notice;
* `Converging` -- the invariant: from any place at or before the cursor, the records up to the
  furthest one ever reached lead to the list of exactly-once delivery;
* `find_delivered` -- a finished delivery leaves the lists of exactly-once delivery.
-/

namespace Catalogue

/-- A delivery of records in which a cursor moves on by one, or back: where the cursor stands, and
    the store there. -/
inductive Delivered {σ : Type} (process : Processing σ) (rs : List Record) (s₀ : σ) :
    Nat → σ → Prop where
  | start : Delivered process rs s₀ 0 s₀
  | next {cursor : Nat} {s : σ} {r : Record} (h : Delivered process rs s₀ cursor s)
      (hr : rs[cursor]? = some r) : Delivered process rs s₀ (cursor + 1) (process r.payload s).2
  | rewind {cursor back : Nat} {s : σ} (h : Delivered process rs s₀ cursor s) (hback : back < cursor) :
      Delivered process rs s₀ back s

namespace Store

variable {α : Type} [Entity α]

/-! ## 1. Placing again -/

/-- Whether an entity of a list has the id of another one. -/
def Holds (a : α) (l : List α) : Prop := ∃ b ∈ l, Entity.entityId b = Entity.entityId a

theorem holds_place_self (a : α) (l : List α) : Holds a (place a l) := by
  induction l with
  | nil => exact ⟨a, List.mem_singleton_self a, rfl⟩
  | cons b l ih =>
    rw [place]
    split
    · exact ⟨a, List.mem_cons_self, rfl⟩
    · obtain ⟨c, hc, hid⟩ := ih
      exact ⟨c, List.mem_cons_of_mem b hc, hid⟩

theorem Holds.place {a : α} {l : List α} (h : Holds a l) (b : α) : Holds a (place b l) := by
  induction l with
  | nil =>
    obtain ⟨c, hc, -⟩ := h
    exact absurd hc List.not_mem_nil
  | cons d l ih =>
    obtain ⟨c, hc, hid⟩ := h
    rw [Store.place]
    split
    · rename_i hd
      rcases List.mem_cons.mp hc with rfl | hc
      · exact ⟨b, List.mem_cons_self, hd.symm.trans hid⟩
      · exact ⟨c, List.mem_cons_of_mem b hc, hid⟩
    · rcases List.mem_cons.mp hc with rfl | hc
      · exact ⟨c, List.mem_cons_self, hid⟩
      · obtain ⟨c', hc', hid'⟩ := ih ⟨c, hc, hid⟩
        exact ⟨c', List.mem_cons_of_mem d hc', hid'⟩

/-- Of two entities with one id the later one stays. -/
theorem place_place {a b : α} (h : Entity.entityId a = Entity.entityId b) (l : List α) :
    place b (place a l) = place b l := by
  induction l with
  | nil => simp [place, h]
  | cons c l ih =>
    by_cases hc : Entity.entityId c = Entity.entityId b
    · simp [place, hc, h]
    · simp [place, hc, h, ih]

/-- Two entities with ids of their own can be placed in either order if one is there already. -/
theorem place_comm {a b : α} (hne : Entity.entityId a ≠ Entity.entityId b) {l : List α}
    (ha : Holds a l) : place b (place a l) = place a (place b l) := by
  induction l with
  | nil =>
    obtain ⟨c, hc, -⟩ := ha
    exact absurd hc List.not_mem_nil
  | cons c l ih =>
    by_cases hca : Entity.entityId c = Entity.entityId a
    · simp [place, hca, hne]
    · by_cases hcb : Entity.entityId c = Entity.entityId b
      · simp [place, hcb, Ne.symm hne]
      · have hl : Holds a l := by
          obtain ⟨d, hd, hid⟩ := ha
          rcases List.mem_cons.mp hd with rfl | hd
          · exact absurd hid hca
          · exact ⟨d, hd, hid⟩
        simp [place, hca, hcb, ih hl]

/-- Lists that placing an entity makes equal stay so while entities are placed that both hold. -/
theorem place_amendAll_congr {b : α} {es : List (Option (Action α))} {l l' : List α}
    (h : place b l = place b l') (hdel : some .delete ∉ es)
    (hl : ∀ a, some (.create a) ∈ es → Holds a l) (hl' : ∀ a, some (.create a) ∈ es → Holds a l') :
    place b (amendAll es l) = place b (amendAll es l') := by
  induction es generalizing l l' with
  | nil => exact h
  | cons e es ih =>
    have hdel' : some .delete ∉ es := fun hm => hdel (List.mem_cons_of_mem e hm)
    have tl := fun a hm => hl a (List.mem_cons_of_mem e hm)
    have tl' := fun a hm => hl' a (List.mem_cons_of_mem e hm)
    match e with
    | none => exact ih h hdel' tl tl'
    | some .delete => exact absurd List.mem_cons_self hdel
    | some (.create a) =>
      refine ih ?_ hdel' (fun c hc => (tl c hc).place a) (fun c hc => (tl' c hc).place a)
      by_cases hab : Entity.entityId a = Entity.entityId b
      · simp only [amend, edit]
        rw [place_place hab, place_place hab, h]
      · simp only [amend, edit]
        rw [place_comm hab (hl a List.mem_cons_self), place_comm hab (hl' a List.mem_cons_self), h]

/-- **An entity that comes again after records that place only what is held already** leaves the
    same list as if it had not come before them. -/
theorem amendAll_place {b : α} {es : List (Option (Action α))} {l : List α}
    (hdel : some .delete ∉ es) (hl : ∀ a, some (.create a) ∈ es → Holds a l) :
    place b (amendAll es (place b l)) = place b (amendAll es l) :=
  place_amendAll_congr (place_place rfl l) hdel (fun a ha => (hl a ha).place b) hl

/-- A delete makes records before it irrelevant. -/
theorem amendAll_eq_of_delete {es : List (Option (Action α))} (h : some .delete ∈ es)
    (l l' : List α) : amendAll es l = amendAll es l' := by
  induction es generalizing l l' with
  | nil => exact absurd h List.not_mem_nil
  | cons e es ih =>
    rcases List.mem_cons.mp h with rfl | h
    · rfl
    · exact ih h _ _

/-! ## 2. Stretches of records -/

/-- The effects from one place up to another. -/
def stretch (es : List (Option (Action α))) (i j : Nat) : List (Option (Action α)) :=
  (es.take j).drop i

omit [Entity α] in
theorem stretch_self (es : List (Option (Action α))) (i : Nat) : stretch es i i = [] := by
  rw [stretch, List.drop_eq_nil_iff, List.length_take]
  exact Nat.min_le_left _ _

omit [Entity α] in
theorem stretch_succ {es : List (Option (Action α))} {i j : Nat} {e : Option (Action α)}
    (hij : i ≤ j) (he : es[j]? = some e) : stretch es i (j + 1) = stretch es i j ++ [e] := by
  have hj : j < es.length := (List.getElem?_eq_some_iff.mp he).1
  rw [stretch, List.take_add_one, he, stretch, Option.toList_some,
    List.drop_append_of_le_length (by rw [List.length_take]; omega)]

omit [Entity α] in
theorem stretch_append {es : List (Option (Action α))} {i j k : Nat} (hij : i ≤ j) (hjk : j ≤ k)
    (hk : k ≤ es.length) : stretch es i k = stretch es i j ++ stretch es j k := by
  have htake : es.take k = es.take j ++ (es.take k).drop j := by
    rw [← List.take_append_drop j (es.take k), List.take_take, Nat.min_eq_left hjk,
      List.drop_append_of_le_length (by rw [List.length_take]; omega)]
    simp
  unfold stretch
  rw [htake, List.drop_append_of_le_length (by rw [List.length_take]; omega)]
  congr 1
  rw [List.drop_append_of_le_length (by rw [List.length_take]; omega)]
  simp

omit [Entity α] in
theorem stretch_cons {es : List (Option (Action α))} {i j : Nat} {e : Option (Action α)}
    (hij : i < j) (hj : j ≤ es.length) (he : es[i]? = some e) :
    stretch es i j = e :: stretch es (i + 1) j := by
  rw [stretch_append (Nat.le_succ i) hij hj, stretch_succ (Nat.le_refl i) he, stretch_self]
  rfl

/-! ## 3. The invariant -/

/-- **Where a delivery has got to**, for one item: the list is `l`, the cursor stands at `cursor`,
    and no record at or past `reached` has been delivered. -/
structure Converging (es : List (Option (Action α))) (l₀ l : List α) (cursor reached : Nat) :
    Prop where
  le : cursor ≤ reached
  le_length : reached ≤ es.length
  /-- From any place at or before the cursor, the records up to `reached` lead to the list of
      exactly-once delivery. -/
  value : ∀ i ≤ cursor, amendAll (stretch es i reached) l = amendAll (es.take reached) l₀
  /-- Either they delete all, or what comes before the cursor is held. -/
  held : ∀ i ≤ cursor, some .delete ∈ stretch es i reached ∨
    ∀ a, some (.create a) ∈ stretch es i cursor → Holds a l

namespace Converging

variable {es : List (Option (Action α))} {l₀ l : List α} {cursor reached : Nat}

theorem start (es : List (Option (Action α))) (l₀ : List α) : Converging es l₀ l₀ 0 0 where
  le := Nat.le_refl 0
  le_length := Nat.zero_le _
  value i hi := by
    obtain rfl := Nat.le_zero.mp hi
    rfl
  held i hi := by
    obtain rfl := Nat.le_zero.mp hi
    exact Or.inr fun a ha => absurd ha (by simp [stretch])

theorem rewind (h : Converging es l₀ l cursor reached) {back : Nat} (hback : back < cursor) :
    Converging es l₀ l back reached where
  le := Nat.le_trans (Nat.le_of_lt hback) h.le
  le_length := h.le_length
  value i hi := h.value i (by omega)
  held i hi := by
    refine (h.held i (by omega)).imp_right fun hold a ha => hold a ?_
    have hlen := h.le_length
    have hle := h.le
    rw [stretch_append hi (Nat.le_of_lt hback) (by omega)]
    exact List.mem_append_left _ ha

/-- The furthest place may be taken to be further than it is. -/
theorem extend (h : Converging es l₀ l cursor reached) {e : Option (Action α)}
    (he : es[reached]? = some e) : Converging es l₀ l cursor (reached + 1) where
  le := Nat.le_succ_of_le h.le
  le_length := (List.getElem?_eq_some_iff.mp he).1
  value i hi := by
    rw [stretch_succ (Nat.le_trans hi h.le) he, amendAll_append, h.value i hi, List.take_add_one, he,
      Option.toList_some, amendAll_append]
  held i hi := by
    refine (h.held i hi).imp_left fun hdel => ?_
    rw [stretch_succ (Nat.le_trans hi h.le) he]
    exact List.mem_append_left _ hdel

/-- A record that is still to come may come early. -/
theorem amendAll_amend (h : Converging es l₀ l cursor reached) (hlt : cursor < reached)
    {e : Option (Action α)} (he : es[cursor]? = some e) {i : Nat} (hi : i ≤ cursor) :
    amendAll (stretch es i reached) (amend e l) = amendAll (stretch es i reached) l := by
  rcases h.held i hi with hdel | hold
  · -- a delete that is still to come makes both lists one
    exact amendAll_eq_of_delete hdel _ _
  · by_cases hdel : some .delete ∈ stretch es i reached
    · exact amendAll_eq_of_delete hdel _ _
    · have hsplit := stretch_append hi h.le h.le_length
      rw [stretch_cons hlt h.le_length he] at hsplit
      rw [hsplit] at hdel ⊢
      have hdel' : some .delete ∉ stretch es i cursor := fun hm =>
        hdel (List.mem_append_left _ hm)
      match e with
      | none => rfl
      | some .delete => exact absurd (List.mem_append_right _ List.mem_cons_self) hdel
      | some (.create a) =>
        rw [amendAll_append, amendAll_append, amendAll_cons, amendAll_cons]
        exact congrArg _ (amendAll_place hdel' hold)

/-- **Delivering the record at the cursor keeps the invariant.** -/
theorem next (h : Converging es l₀ l cursor reached) (hlt : cursor < reached)
    {e : Option (Action α)} (he : es[cursor]? = some e) :
    Converging es l₀ (amend e l) (cursor + 1) reached where
  le := hlt
  le_length := h.le_length
  value i hi := by
    rcases Nat.lt_or_ge cursor i with hlast | hi
    · obtain rfl : i = cursor + 1 := by omega
      rw [← h.value cursor (Nat.le_refl _), stretch_cons hlt h.le_length he, amendAll_cons]
    · -- the record comes again before `reached`, so that it came now is not seen there
      rw [h.amendAll_amend hlt he hi, h.value i hi]
  held i hi := by
    rcases Nat.lt_or_ge cursor i with hlast | hi
    · obtain rfl : i = cursor + 1 := by omega
      exact Or.inr fun a ha => absurd ha (by simp [stretch_self])
    · rcases h.held i hi with hdel | hold
      · exact Or.inl hdel
      · match e with
        | none =>
          refine Or.inr fun a ha => hold a ?_
          rw [stretch_succ hi he] at ha
          simpa using ha
        | some .delete =>
          refine Or.inl ?_
          rw [stretch_append hi h.le h.le_length, stretch_cons hlt h.le_length he]
          exact List.mem_append_right _ List.mem_cons_self
        | some (.create b) =>
          refine Or.inr fun a ha => ?_
          rw [stretch_succ hi he, List.mem_append, List.mem_singleton] at ha
          rcases ha with ha | ha
          · exact (hold a ha).place b
          · simp only [Option.some.injEq, Action.create.injEq] at ha
            rw [ha]
            exact holds_place_self b l

end Converging

/-! ## 4. Deliveries -/

variable (entity : Json.Codec α)

/-- **Every delivery keeps the invariant**, for every item. -/
theorem converging_of_delivered {rs : List Record} {s₀ s : Store α} {cursor : Nat}
    (h : Delivered (processPayload entity .local_) rs s₀ cursor s) (item : ItemId) :
    ∃ reached, Converging (rs.map fun r => effectOn entity item r.payload) (s₀.find item)
      (s.find item) cursor reached := by
  induction h with
  | start => exact ⟨0, Converging.start _ _⟩
  | @next cursor s r _ hr ih =>
    obtain ⟨reached, hc⟩ := ih
    have he : (rs.map fun r => effectOn entity item r.payload)[cursor]? =
        some (effectOn entity item r.payload) := by
      rw [List.getElem?_map, hr]
      rfl
    rw [find_processPayload]
    rcases Nat.lt_or_ge cursor reached with hlt | hge
    · exact ⟨reached, hc.next hlt he⟩
    · obtain rfl := Nat.le_antisymm hc.le hge
      exact ⟨cursor + 1, (hc.extend he).next (Nat.lt_succ_self cursor) he⟩
  | rewind _ hback ih =>
    obtain ⟨reached, hc⟩ := ih
    exact ⟨reached, hc.rewind hback⟩

theorem reachable_of_delivered {rs : List Record} {s₀ s : Store α} {cursor : Nat}
    (h : Delivered (processPayload entity .local_) rs s₀ cursor s) (h₀ : s₀.Reachable) :
    s.Reachable := by
  induction h with
  | start => exact h₀
  | next _ _ ih => exact ih.processPayload entity _
  | rewind _ _ ih => exact ih

/-- **Redelivery is harmless**: a delivery that may rewind any number of times and to any depth,
    and ends after the last record, leaves the lists and the number of entities of a delivery in
    which every record comes once. -/
theorem find_delivered {rs : List Record} {s₀ s : Store α} (h₀ : s₀.Reachable)
    (h : Delivered (processPayload entity .local_) rs s₀ rs.length s) :
    (∀ item, s.find item = (replay (processPayload entity .local_) rs s₀).find item) ∧
      s.len = (replay (processPayload entity .local_) rs s₀).len := by
  have hfind : ∀ item,
      s.find item = (replay (processPayload entity .local_) rs s₀).find item := by
    intro item
    obtain ⟨reached, hc⟩ := converging_of_delivered entity h item
    have hlen : (rs.map fun r => effectOn entity item r.payload).length = rs.length :=
      List.length_map _
    have hreached : reached = rs.length := Nat.le_antisymm (hlen ▸ hc.le_length) hc.le
    have hv := hc.value rs.length (Nat.le_refl _)
    rw [hreached, stretch_self, List.take_of_length_le (Nat.le_of_eq hlen)] at hv
    rw [find_replay]
    exact hv
  exact ⟨hfind, len_eq_of_find_eq (reachable_of_delivered entity h h₀).keyed
    (h₀.replay entity rs).keyed hfind⟩

/-- A create, a record that is no event, a create under the key of another item and a delete, in a
    delivery that goes back after three records and again after the last. -/
theorem find_delivered_rewound :
    let item : ItemId := ⟨7, by decide, by decide⟩
    let other : ItemId := ⟨8, by decide, by decide⟩
    let now : Instant := ⟨⟨2024, 1, 1, by decide⟩, ⟨0, 0, 0, 0, by decide, by decide, by decide,
      by decide, by decide⟩⟩
    let payload (e : ChangeEvent Product) : Bytes :=
      (Json.Codec.changeEvent Json.Codec.product).encode e
    let record (offset : Nat) (payload : Bytes) : Record :=
      ⟨"products", 0, offset, offset, "7", payload⟩
    let rs := [record 0 (payload ⟨item, .create ⟨item, "lamp", 3, none⟩, now⟩), record 1 [0x7B],
      record 2 (payload ⟨item, .create ⟨other, "lamp", 3, none⟩, now⟩),
      record 3 (payload ⟨item, .delete, now⟩)]
    let process := processPayload Json.Codec.product .local_
    (Store.empty : Store Product).Reachable ∧
      ∃ s, Delivered process rs .empty rs.length s ∧
        (∀ item, s.find item = (replay process rs .empty).find item) ∧
        s.len = (replay process rs .empty).len := by
  intro item other now payload record rs process
  have first : Delivered process rs .empty 3 _ := ((Delivered.start.next rfl).next rfl).next rfl
  have again : Delivered process rs .empty 4 _ :=
    ((((first.rewind (by decide : 1 < 3)).next rfl).next rfl).next rfl)
  have last : Delivered process rs .empty rs.length _ :=
    ((((again.rewind (by decide : 0 < 4)).next rfl).next rfl).next rfl).next rfl
  exact ⟨.empty, _, last, find_delivered Json.Codec.product .empty last⟩

end Store

end Catalogue
