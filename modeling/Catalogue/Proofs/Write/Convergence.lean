import Catalogue.Proofs.Write.Pipeline

/-!
# Writes arrive

Whatever the number of partitions, and whenever the consumers poll: once each of them has polled
after the last write, the stores are those on which the writes were carried out directly.

* `Ledger.Advances` -- what polls do to a ledger: records stay, marks move up;
* `Accounts.poll` -- a poll keeps the invariant, and its partition is released to the end;
* `accounts_of_runs` -- the invariant holds wherever calls and polls lead;
* `Accounts.polls` -- polls of all consumers release everything;
* `Stores.after` -- the stores that writes are meant to lead to, `find_after` -- item by item, these
  are the effects of all messages in order;
* `converges` -- polls of all consumers lead to these stores and leave nothing on the topics.
-/

namespace Catalogue

/-! ## 1. Marks that move up -/

namespace Ledger

/-- Whether everything of a partition has been released. -/
def CaughtUp (l : Ledger) (topic : String) (partition : Nat) : Prop :=
  l.base topic partition = l.endOffset topic partition

/-- A later ledger with the same records and no lower mark. -/
structure Advances (l l' : Ledger) : Prop where
  records : SameRecords l l'
  base : ∀ topic partition, l.base topic partition ≤ l'.base topic partition

variable {l l' l'' : Ledger}

theorem Advances.refl (l : Ledger) : Advances l l := ⟨.refl l, fun _ _ => Nat.le_refl _⟩

theorem Advances.trans (h : Advances l l') (h' : Advances l' l'') : Advances l l'' where
  records := ⟨h.records.partitions.trans h'.records.partitions,
    h.records.accepted.trans h'.records.accepted, h.records.failing.trans h'.records.failing⟩
  base topic partition := Nat.le_trans (h.base topic partition) (h'.base topic partition)

theorem advances_commit (l : Ledger) (topic : String) (partition offset : Nat) :
    Advances l (l.commit topic partition offset) :=
  ⟨⟨rfl, rfl, rfl⟩, l.base_le_apply (.commit topic partition offset)⟩

/-- What is released stays released. -/
theorem CaughtUp.advances {topic : String} {partition : Nat} (h : l.CaughtUp topic partition)
    (ha : Advances l l') (hb : l'.Bounded) : l'.CaughtUp topic partition := by
  have hend : l.endOffset topic partition = l'.endOffset topic partition := by
    rw [← length_log, ← length_log, ha.records.log_eq]
  have hle := ha.base topic partition
  have hbound := hb topic partition
  unfold CaughtUp at h ⊢
  omega

end Ledger

/-! ## 2. Effects on an item -/

/-- The stores that writes are meant to lead to: each carried out directly, in order. -/
def Stores.after (ws : List Write) : Stores := ws.foldl (fun s w => w.direct s) .empty

theorem Stores.find_empty (d : Domain) (k : ItemId) : (Stores.empty.of d).find k = [] := by
  cases d with
  | product => rfl
  | recommendation => rfl
  | review => rfl

/-- **Item by item, writes are the effects of their messages.** -/
theorem Stores.find_after (ws : List (Write × Stamps)) (d : Domain) (k : ItemId) :
    ((Stores.after (ws.map Prod.fst)).of d).find k =
      Store.amendAll ((Write.allMessages ws d).map (Message.effect d k)) [] := by
  -- the stores change along the list, so the induction is for all stores to start from
  have hfold : ∀ s : Stores,
      (((ws.map Prod.fst).foldl (fun s w => w.direct s) s).of d).find k =
        Store.amendAll ((Write.allMessages ws d).map (Message.effect d k)) ((s.of d).find k) := by
    induction ws with
    | nil => exact fun _ => rfl
    | cons w ws ih =>
      intro s
      have hsplit : Write.allMessages (w :: ws) d = w.1.messages w.2 d ++ Write.allMessages ws d :=
        List.flatMap_cons
      rw [List.map_cons, List.foldl_cons, ih, w.1.find_direct w.2, hsplit, List.map_append,
        Store.amendAll_append]
  have h := hfold .empty
  rwa [find_empty] at h

namespace Pipeline

/-! ## 3. Polls -/

namespace Accounts

variable {ws : List (Write × Stamps)} {s : Pipeline} {l : Ledger}

/-- **A message of another partition asks nothing of an item.** -/
theorem effect_eq_none (h : Accounts ws s l) {d : Domain} {m : Message}
    (hm : m ∈ l.messages d.topic) {k : ItemId} (hk : partitionOf l.partitions m.key ≠ l.home k) :
    m.effect d k = none := by
  have hsent : m ∈ Write.allMessages ws d := by
    rw [← h.traffic d]
    exact List.mem_append_left _ hm
  obtain ⟨⟨w, stamps⟩, -, hw⟩ := List.mem_flatMap.mp hsent
  apply Classical.byContradiction
  intro he
  exact hk (congrArg (partitionOf l.partitions) (w.key_of_effect stamps hw he))

/-- The same, said of a record. -/
theorem effectOn_eq_none (h : Accounts ws s l) {d : Domain} {partition : Nat} {r : Record}
    (hr : r ∈ l.log d.topic partition) {k : ItemId} (hk : partition ≠ l.home k) :
    Store.effectOn d.codec k r.payload = none := by
  have hm : ⟨r.key, r.payload⟩ ∈
      (l.messages d.topic).filter fun m => partitionOf l.partitions m.key == partition := by
    rw [← l.log_map_message]
    exact List.mem_map_of_mem hr
  obtain ⟨hmem, hpart⟩ := List.mem_filter.mp hm
  rw [← beq_iff_eq.mp hpart] at hk
  exact h.effect_eq_none hmem hk

/-- The consumer with a number is the one that was started with it. -/
theorem started (h : Accounts ws s l) {i : Nat} {d : Domain} {c : Consumer}
    (hi : s.consumers[i]? = some (d, c)) :
    c.topic = d.topic ∧
      (Deployment.allConsumers l.partitions)[i]? = some (d, ⟨d.topic, c.partition, 0⟩) := by
  have hat : (Deployment.allConsumers l.partitions)[i]? = some (origin (d, c)) := by
    rw [← h.wired, List.getElem?_map, hi]
    rfl
  obtain ⟨p, -, d', he⟩ := mem_allConsumers.mp (List.mem_of_getElem? hat)
  simp only [origin, Prod.mk.injEq, Consumer.mk.injEq] at he
  obtain ⟨rfl, htopic, -⟩ := he
  exact ⟨htopic, by rw [hat]; simp only [origin, htopic]⟩

/-- What is due to a consumer is what has not been released. -/
theorem due_eq (h : Accounts ws s l) {i : Nat} {d : Domain} {c : Consumer}
    (hi : s.consumers[i]? = some (d, c)) :
    c.due l = (l.log d.topic c.partition).drop (l.base d.topic c.partition) := by
  have hbehind := h.behind _ (List.mem_of_getElem? hi)
  rw [Consumer.due, Nat.max_eq_right hbehind, (h.started hi).1]

/-- A poll that finds nothing changes nothing. -/
theorem poll_of_nil (h : Accounts ws s l) {i : Nat} {d : Domain} {c : Consumer}
    (hi : s.consumers[i]? = some (d, c)) (hdue : c.due l = []) : s.poll i = s := by
  have hpoll := Consumer.poll_of_refines h.refines (Stores.process d) c s.stores
  rw [if_pos hdue] at hpoll
  obtain ⟨hlt, hat⟩ := List.getElem?_eq_some_iff.mp hi
  have hset : s.consumers.set i (d, c) = s.consumers := by rw [← hat, List.set_getElem_self]
  simp only [Pipeline.poll, hi, hpoll, hset]

/-- A poll that finds something takes it all. -/
theorem poll_of_ne_nil (h : Accounts ws s l) {i : Nat} {d : Domain} {c : Consumer}
    (hi : s.consumers[i]? = some (d, c)) (hdue : c.due l ≠ []) :
    s.poll i =
      { s with
        consumers :=
          s.consumers.set i (d, ⟨d.topic, c.partition, l.endOffset d.topic c.partition⟩)
        transport :=
          (s.transport.commit d.topic c.partition (l.endOffset d.topic c.partition)).1
        stores := replay (Stores.process d)
          ((l.log d.topic c.partition).drop (l.base d.topic c.partition)) s.stores } := by
  have hpoll := Consumer.poll_of_refines h.refines (Stores.process d) c s.stores
  rw [if_neg hdue, h.due_eq hi, (h.started hi).1] at hpoll
  simp only [Pipeline.poll, hi, hpoll]

/-- Carrying the rest of a partition into its store makes the lists those of the whole partition. -/
theorem find_replay_rest (h : Accounts ws s l) (d : Domain) (partition : Nat) (e : Domain)
    (k : ItemId) :
    ((replay (Stores.process d)
        ((l.log d.topic partition).drop (l.base d.topic partition)) s.stores).of e).find k =
      Store.amendAll (((l.commit d.topic partition (l.endOffset d.topic partition)).released e.topic
        (l.home k)).map fun r => Store.effectOn e.codec k r.payload) [] := by
  have hstore := h.stores e k
  rw [l.released_commit_end h.refines.bounded]
  by_cases he : e = d
  · subst he
    rw [Stores.find_replay_process, hstore]
    by_cases hk : l.home k = partition
    · rw [if_pos ⟨rfl, hk⟩, hk, ← Store.amendAll_append, ← List.map_append,
        Ledger.released_append_drop]
    · -- the item lives in another partition, whose released records are what they were
      rw [if_neg fun hc => hk hc.2]
      refine Store.amendAll_of_none (fun x hx => ?_) _
      obtain ⟨r, hr, rfl⟩ := List.mem_map.mp hx
      exact h.effectOn_eq_none (List.mem_of_mem_drop hr) (Ne.symm hk)
  · rw [if_neg fun hc => he (Domain.topic_injective hc.1), Stores.of_replay_other he]
    exact hstore

/-- The mark of a partition that is committed at its end. -/
theorem base_commit_end (h : Accounts ws s l) (topic : String) (partition : Nat) :
    (l.commit topic partition (l.endOffset topic partition)).base topic partition =
      l.endOffset topic partition := by
  rw [Ledger.base_commit_self, Ledger.committed, Nat.min_self,
    Nat.max_eq_right (h.refines.bounded topic partition)]

/-- A poll that finds something keeps the invariant, with the ledger committed at the end. -/
theorem release (h : Accounts ws s l) {i : Nat} {d : Domain} {c : Consumer}
    (hi : s.consumers[i]? = some (d, c)) (hdue : c.due l ≠ []) :
    Accounts ws (s.poll i)
      (l.commit d.topic c.partition (l.endOffset d.topic c.partition)) := by
  rw [h.poll_of_ne_nil hi hdue]
  refine ⟨h.refines.commit _ _ _, h.accepting, h.refused, h.traffic, ?_, fun e he => ?_,
    h.find_replay_rest d c.partition⟩
  · have hsame : origin (d, ⟨d.topic, c.partition, l.endOffset d.topic c.partition⟩) =
        origin (d, c) := by simp only [origin, (h.started hi).1]
    obtain ⟨hlt, hat⟩ := List.getElem?_eq_some_iff.mp hi
    simp only [List.map_set, hsame]
    rw [← hat, ← List.map_set, List.set_getElem_self]
    exact h.wired
  · rcases List.mem_or_eq_of_mem_set he with he | rfl
    · exact Nat.le_trans (h.behind e he) ((l.advances_commit _ _ _).base _ _)
    · exact Nat.le_of_eq (h.base_commit_end d.topic c.partition).symm

/-- **A poll releases its partition to the end, and carries what it releases into the store.** -/
theorem poll (h : Accounts ws s l) (i : Nat) :
    ∃ l', Accounts ws (s.poll i) l' ∧ l.Advances l' ∧
      ∀ d p, (Deployment.allConsumers l.partitions)[i]? = some (d, ⟨d.topic, p, 0⟩) →
        l'.CaughtUp d.topic p := by
  cases hi : s.consumers[i]? with
  | none =>
    have hsame : s.poll i = s := by simp only [Pipeline.poll, hi]
    rw [hsame]
    refine ⟨l, h, .refl l, fun d p hat => ?_⟩
    rw [← h.wired, List.getElem?_map, hi] at hat
    cases hat
  | some e =>
    obtain ⟨d, c⟩ := e
    have hplace : ∀ e p, (Deployment.allConsumers l.partitions)[i]? = some (e, ⟨e.topic, p, 0⟩) →
        d = e ∧ c.partition = p := by
      intro e p hat
      rw [(h.started hi).2] at hat
      simp only [Option.some.injEq, Prod.mk.injEq, Consumer.mk.injEq] at hat
      exact ⟨hat.1, hat.2.2.1⟩
    by_cases hdue : c.due l = []
    · rw [h.poll_of_nil hi hdue]
      refine ⟨l, h, .refl l, fun e p hat => ?_⟩
      obtain ⟨rfl, rfl⟩ := hplace e p hat
      rw [h.due_eq hi, List.drop_eq_nil_iff, Ledger.length_log] at hdue
      exact Nat.le_antisymm (h.refines.bounded _ _) hdue
    · refine ⟨_, h.release hi hdue, l.advances_commit _ _ _, fun e p hat => ?_⟩
      obtain ⟨rfl, rfl⟩ := hplace e p hat
      exact h.base_commit_end d.topic c.partition

/-- **Polls of consumers release their partitions to the end.** -/
theorem polls (h : Accounts ws s l) (is : List Nat) :
    ∃ l', Accounts ws (is.foldl Pipeline.poll s) l' ∧ l.Advances l' ∧
      ∀ i ∈ is, ∀ d p, (Deployment.allConsumers l.partitions)[i]? = some (d, ⟨d.topic, p, 0⟩) →
        l'.CaughtUp d.topic p := by
  induction is generalizing s l with
  | nil => exact ⟨l, h, .refl l, fun i hi => absurd hi List.not_mem_nil⟩
  | cons i is ih =>
    obtain ⟨l₁, h₁, hadv₁, hfirst⟩ := h.poll i
    obtain ⟨l₂, h₂, hadv₂, hrest⟩ := ih h₁
    refine ⟨l₂, h₂, hadv₁.trans hadv₂, fun j hj d p hat => ?_⟩
    rcases List.mem_cons.mp hj with rfl | hj
    · exact (hfirst d p hat).advances hadv₂ h₂.refines.bounded
    · rw [hadv₁.records.partitions] at hat
      exact hrest j hj d p hat

end Accounts

/-- **The invariant holds wherever calls and polls lead.** -/
theorem accounts_of_runs {n : Nat} {ws : List (Write × Stamps)} {s : Pipeline}
    (h : Runs n ws s) : ∃ l, Accounts ws s l ∧ l.partitions = max n 1 := by
  induction h with
  | start => exact ⟨.empty (max n 1), accounts_start n, rfl⟩
  | call _ idle w stamps ih =>
    obtain ⟨l, hl, hn⟩ := ih
    obtain ⟨l', hl', hpart⟩ := hl.call idle w stamps
    exact ⟨l', hl', hpart.trans hn⟩
  | issue _ idle w stamps ih =>
    obtain ⟨l, hl, hn⟩ := ih
    exact ⟨l, hl.issue idle w stamps, hn⟩
  | handOver _ d ih =>
    obtain ⟨l, hl, hn⟩ := ih
    obtain ⟨l', hl', hpart, -⟩ := hl.handOver d
    exact ⟨l', hl', hpart.trans hn⟩
  | poll _ i ih =>
    obtain ⟨l, hl, hn⟩ := ih
    obtain ⟨l', hl', hadv, -⟩ := hl.poll i
    exact ⟨l', hl', hadv.records.partitions.symm.trans hn⟩

/-! ## 4. Where writes lead -/

/-- Every topic and partition has a consumer with a number. -/
theorem exists_consumer (n : Nat) (d : Domain) {p : Nat} (hp : p < n) :
    ∃ i < 3 * n, (Deployment.allConsumers n)[i]? = some (d, ⟨d.topic, p, 0⟩) := by
  have hmem := mem_allConsumers.mpr ⟨p, hp, d, rfl⟩
  obtain ⟨i, hi, hat⟩ := List.getElem_of_mem hmem
  have hlen : (Deployment.allConsumers n).length = 3 * n := by
    simp [Deployment.allConsumers, Domain.all, List.map_const']
    omega
  exact ⟨i, hlen ▸ hi, by rw [List.getElem?_eq_getElem hi, hat]⟩

/-- Once a partition is released to the end, an item in it is what its topic makes of it. -/
theorem Accounts.find_of_caughtUp {ws : List (Write × Stamps)} {s : Pipeline} {l : Ledger}
    (h : Accounts ws s l) (idle : s.Idle) (d : Domain) (k : ItemId)
    (hup : l.CaughtUp d.topic (l.home k)) :
    (s.stores.of d).find k = ((Stores.after (ws.map Prod.fst)).of d).find k := by
  have htraffic := h.traffic d
  rw [h.pending_of_idle idle d, List.append_nil] at htraffic
  have hall : l.released d.topic (l.home k) = l.log d.topic (l.home k) := by
    rw [Ledger.released, hup, List.take_of_length_le (Nat.le_of_eq (l.length_log _ _))]
  have hlog : (l.log d.topic (l.home k)).map (fun r => Store.effectOn d.codec k r.payload) =
      ((l.messages d.topic).filter fun m => partitionOf l.partitions m.key == l.home k).map
        (Message.effect d k) := by
    rw [← l.log_map_message, List.map_map]
    rfl
  rw [h.stores d k, hall, hlog, Stores.find_after, ← htraffic]
  refine Store.amendAll_filter _ _ _ (fun m hm hq => ?_) _
  exact h.effect_eq_none hm (by simpa using hq)

/-- A poll does not begin a write. -/
theorem Idle.poll {s : Pipeline} (h : s.Idle) (i : Nat) : (s.poll i).Idle := by
  have hsame : (s.poll i).propagation = s.propagation := by
    unfold Pipeline.poll
    split
    · rfl
    · rfl
  unfold Idle
  rwa [hsame]

theorem Idle.call {s : Pipeline} (h : s.Idle) (w : Write) (stamps : Stamps) : (s.call w stamps).Idle := h

theorem Idle.polls {s : Pipeline} (h : s.Idle) (is : List Nat) : (is.foldl Pipeline.poll s).Idle := by
  induction is generalizing s with
  | nil => exact h
  | cons i is ih => exact ih (h.poll i)

/-- **Writes arrive**: when no write is under way any more, polls of all consumers, in any order and
    any number, lead to the stores on which the writes were carried out directly, and leave no
    record on any topic; whatever the number of partitions is, and whenever there were polls
    before. -/
theorem converges {partitions : Nat} {ws : List (Write × Stamps)} {s : Pipeline}
    (h : Runs partitions ws s) (idle : s.Idle) (is : List Nat)
    (all : ∀ i < 3 * max partitions 1, i ∈ is) :
    (∀ k : ItemId,
      (is.foldl poll s).stores.products.find k =
        (Stores.after (ws.map Prod.fst)).products.find k ∧
      (is.foldl poll s).stores.recommendations.find k =
        (Stores.after (ws.map Prod.fst)).recommendations.find k ∧
      (is.foldl poll s).stores.reviews.find k =
        (Stores.after (ws.map Prod.fst)).reviews.find k) ∧
    ∀ d : Domain, (is.foldl poll s).transport.recordCount d.topic = 0 := by
  obtain ⟨l, hl, hpart⟩ := accounts_of_runs h
  obtain ⟨l', hl', hadv, hup⟩ := hl.polls is
  have hparts : l'.partitions = max partitions 1 := hadv.records.partitions.symm.trans hpart
  have hcaught : ∀ (d : Domain) (p : Nat), p < l'.partitions → l'.CaughtUp d.topic p := by
    intro d p hp
    rw [hparts, ← hpart] at hp
    obtain ⟨i, hi, hat⟩ := exists_consumer l.partitions d hp
    exact hup i (all i (hpart ▸ hi)) d p hat
  have hfind (d : Domain) (k : ItemId) := hl'.find_of_caughtUp (idle.polls is) d k
    (hcaught d _ (partitionOf_lt hl'.refines.pos k.partitionKey))
  refine ⟨fun k => ⟨hfind .product k, hfind .recommendation k, hfind .review k⟩, fun d => ?_⟩
  rw [hl'.refines.recordCount_eq]
  refine Ledger.foldr_add_eq_zero fun n hn => ?_
  obtain ⟨p, hp, rfl⟩ := List.mem_map.mp hn
  rw [hcaught d p (List.mem_range.mp hp), Nat.sub_self]

/-- A create whose recommendation is handed over before its product, then polls, a request without a
    name and a delete of another item. -/
theorem converges_interleaved :
    let now : Instant := ⟨⟨2024, 1, 1, by decide⟩, ⟨0, 0, 0, 0, by decide, by decide, by decide,
      by decide, by decide⟩⟩
    let item : ItemId := ⟨7, by decide, by decide⟩
    let other : ItemId := ⟨8, by decide, by decide⟩
    let lamp : Write := .create ⟨7, "lamp", 3, some [⟨1, "ann", 5, "fine"⟩], none⟩
    let nameless : Write := .create ⟨7, "", 3, none, none⟩
    ∃ s : Pipeline, Runs 2 [(lamp, now), (nameless, now), (.delete other, now)] s ∧ s.Idle ∧
      (∀ i < 6, i ∈ List.range 6) ∧
      ((List.range 6).foldl poll s).stores.products.find item = [⟨item, "lamp", 3, none⟩] ∧
      ((List.range 6).foldl poll s).transport.recordCount "products" = 0 := by
  intro now item other lamp nameless
  obtain ⟨s₁, handed, idle⟩ : ∃ s, Runs 2 [(lamp, now)] s ∧ s.Idle :=
    ⟨_, ((Runs.start.issue (fun _ => rfl) lamp now).handOver .recommendation).handOver .product,
      fun d => by cases d <;> rfl⟩
  have polled := (handed.poll 0).poll 4
  have idle₂ := (idle.poll 0).poll 4
  have rejected := polled.call idle₂ nameless now
  have done := (rejected.poll 3).call ((idle₂.call nameless now).poll 3) (.delete other) now
  have idle₃ := ((idle₂.call nameless now).poll 3).call (.delete other) now
  have all : ∀ i < 6, i ∈ List.range 6 := fun i hi => List.mem_range.mpr hi
  have h := converges done idle₃ (List.range 6) all
  have after : (Stores.after [lamp, nameless, .delete other]).products.find item =
      [⟨item, "lamp", 3, none⟩] := by decide
  exact ⟨_, done, idle₃, all, (h.1 item).1.trans after, h.2 .product⟩

end Pipeline

end Catalogue
