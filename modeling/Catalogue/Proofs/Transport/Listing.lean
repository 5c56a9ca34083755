import Mathlib.Data.List.Induction
import Mathlib.Data.List.Nodup
import Catalogue.Proofs.Transport.Refinement

/-!
# What a topic lists

A topic lists its kept records in the order of their acceptance, although it keeps them by
partition. All accepted records of the transport are numbered in one sequence, so the listing is the
history of the topic, without what was released.

* `Transport.accepts` -- the publications that a transport accepts in a run, by its own answers and
  under its own numbers (`Refines.accepted_run`: they are those of the ledger);
* `Numbered` -- numbers without gaps (`Numbered.apply`);
* `placed` -- the records that publications become, `Ledger.unreleased` -- those of a topic at and
  above the marks;
* `Ledger.log_eq_filter`, `Ledger.tail_eq_filter` -- a partition holds its part of them;
* `Refines.records_eq` -- the listing is that history;
* `Listed` -- all that can be said of the listings, `listed_run` -- in every run.
-/

namespace Catalogue

/-! ## 1. What was accepted -/

namespace Transport

/-- The publication that an operation makes, under its number, if the transport accepts it. -/
def accepted? (t : Transport) : Operation → Option Publication
  | .publish topic key payload =>
    match (t.publish topic key payload).1 with
    | .ok () => some ⟨topic, key, payload, t.nextSequence⟩
    | .error _ => none
  | .commit _ _ _ => none
  | .read _ _ _ => none
  | .setFailing _ => none

/-- The publications that a transport accepts in a run, in their order. -/
def accepts (t : Transport) : List Operation → List Publication
  | [] => []
  | op :: ops => (t.accepted? op).toList ++ (t.apply op).accepts ops

end Transport

/-- Publications that are numbered from zero on, without gaps. -/
def Numbered (as : List Publication) : Prop := as.map Publication.sequence = List.range as.length

/-- A publication takes the next number. -/
theorem Numbered.publish {l : Ledger} (h : Numbered l.accepted) (topic key : String)
    (payload : Bytes) : Numbered (l.publish topic key payload).accepted := by
  rw [Numbered] at h ⊢
  simp only [Ledger.publish, List.map_append, List.length_append, List.length_singleton, h,
    List.range_succ, List.map_cons, List.map_nil]

theorem Numbered.apply {l : Ledger} (h : Numbered l.accepted) (op : Operation) :
    Numbered (l.apply op).accepted := by
  cases op with
  | publish topic key payload =>
    simp only [Ledger.apply]
    split
    · exact h
    · exact h.publish topic key payload
  | commit _ _ _ => exact h
  | read _ _ _ => exact h
  | setFailing _ => exact h

theorem Numbered.run {l : Ledger} (h : Numbered l.accepted) (ops : List Operation) :
    Numbered (l.run ops).accepted := by
  induction ops generalizing l with
  | nil => exact h
  | cons op ops ih => exact ih (h.apply op)

/-- Numbers without gaps increase. -/
theorem Numbered.pairwise {as : List Publication} (h : Numbered as) :
    as.Pairwise fun a b => a.sequence < b.sequence := by
  rw [← List.pairwise_map (f := Publication.sequence) (R := (· < ·)), show _ = _ from h]
  exact List.pairwise_lt_range

namespace Refines

variable {t : Transport} {l : Ledger}

/-- **An operation adds to the ledger what the transport accepts.** -/
theorem accepted_apply (h : Refines t l) (op : Operation) :
    (l.apply op).accepted = l.accepted ++ (t.accepted? op).toList := by
  cases op with
  | publish topic key payload =>
    simp only [Ledger.apply, Transport.accepted?, h.publish_fst]
    cases l.failing with
    | true => simp
    | false => simp [Ledger.publish, h.sequence]
  | commit _ _ _ => exact (List.append_nil _).symm
  | read _ _ _ => exact (List.append_nil _).symm
  | setFailing _ => exact (List.append_nil _).symm

theorem accepted_run (h : Refines t l) (ops : List Operation) :
    (l.run ops).accepted = l.accepted ++ t.accepts ops := by
  induction ops generalizing t l with
  | nil => exact (List.append_nil _).symm
  | cons op ops ih =>
    have hrest := ih (h.apply op)
    rw [h.accepted_apply op, List.append_assoc] at hrest
    exact hrest

end Refines

/-! ## 2. Records in the order of acceptance -/

/-- Whether two publications go to one partition of one topic. -/
def Publication.sharesPlace (partitions : Nat) (a b : Publication) : Bool :=
  b.topic == a.topic && partitionOf partitions b.key == partitionOf partitions a.key

/-- The records that publications become: each goes to the partition of its key, behind the earlier
    ones of its topic. -/
def placed (partitions : Nat) (as : List Publication) : List Record :=
  as.mapIdx fun i a =>
    a.record (partitionOf partitions a.key) ((as.take i).countP (a.sharesPlace partitions))

/-- The records of a topic that are not released, in the order of their acceptance. -/
def unreleased (partitions : Nat) (base : String → Nat → Nat) (as : List Publication)
    (topic : String) : List Record :=
  (placed partitions as).filter fun r => r.topic == topic && base topic r.partition ≤ r.offset

theorem placed_concat (partitions : Nat) (as : List Publication) (a : Publication) :
    placed partitions (as ++ [a]) = placed partitions as ++
      [a.record (partitionOf partitions a.key) (as.countP (a.sharesPlace partitions))] := by
  unfold placed
  rw [List.mapIdx_append]
  congr 1
  · refine List.mapIdx_eq_mapIdx_iff.mpr fun i hi => ?_
    rw [List.take_append_of_le_length (Nat.le_of_lt hi)]
  · simp

/-- One more publication is one more record of its topic, unless a mark is past the end. -/
theorem unreleased_concat {partitions : Nat} {base : String → Nat → Nat} {as : List Publication}
    {a : Publication} (hmark : base a.topic (partitionOf partitions a.key) ≤
      as.countP (a.sharesPlace partitions)) (topic : String) :
    unreleased partitions base (as ++ [a]) topic = unreleased partitions base as topic ++
      if topic = a.topic then
        [a.record (partitionOf partitions a.key) (as.countP (a.sharesPlace partitions))]
      else [] := by
  rw [unreleased, placed_concat, List.filter_append]
  congr 1
  by_cases h : topic = a.topic
  · subst h
    simp [Publication.record, hmark]
  · have hne : (a.topic == topic) = false := beq_false_of_ne fun e => h e.symm
    simp [Publication.record, h, hne]

/-- Records carry the numbers of their publications. -/
theorem map_sequence_placed (partitions : Nat) (as : List Publication) :
    (placed partitions as).map Record.sequence = as.map Publication.sequence := by
  induction as using List.reverseRecOn with
  | nil => rfl
  | append_singleton as a ih => simp [placed_concat, ih, Publication.record]

theorem partition_lt_of_mem_placed {partitions : Nat} (hpos : 0 < partitions)
    {as : List Publication} {r : Record} (hr : r ∈ placed partitions as) :
    r.partition < partitions := by
  obtain ⟨i, hi, rfl⟩ := List.mem_mapIdx.mp hr
  exact partitionOf_lt hpos _

namespace Ledger

/-- **A partition holds its part of the records.** -/
theorem log_eq_filter (l : Ledger) (topic : String) (partition : Nat) :
    l.log topic partition =
      (placed l.partitions l.accepted).filter fun r =>
        r.topic == topic && r.partition == partition := by
  obtain ⟨partitions, as, base, failing⟩ := l
  induction as using List.reverseRecOn with
  | nil => rfl
  | append_singleton as a ih =>
    simp only [log, appended] at ih ⊢
    rw [placed_concat, List.filter_append, List.filter_append, List.mapIdx_append, ih]
    congr 1
    by_cases h : a.topic = topic ∧ partitionOf partitions a.key = partition
    · obtain ⟨rfl, rfl⟩ := h
      simp [Publication.record, List.countP_eq_length_filter]
      rfl
    · have h' : (a.topic == topic && partitionOf partitions a.key == partition) = false := by
        simpa using h
      simp [Publication.record, h']

/-- From an offset on there are the records with that offset or a higher one. -/
theorem drop_log (l : Ledger) (topic : String) (partition offset : Nat) :
    (l.log topic partition).drop offset =
      (l.log topic partition).filter fun r => offset ≤ r.offset := by
  generalize hlog : l.log topic partition = log
  have hplace {i : Nat} {r : Record} (hget : log[i]? = some r) : r.offset = i := by
    rw [← hlog] at hget
    exact (place_of_getElem? hget).1
  have hbelow : (log.take offset).filter (fun r => offset ≤ r.offset) = [] := by
    refine List.filter_eq_nil_iff.mpr fun r hr => ?_
    obtain ⟨i, hget⟩ := List.mem_iff_getElem?.mp hr
    rw [List.getElem?_take] at hget
    split at hget
    next hi =>
      rw [hplace hget, decide_eq_true_eq]
      omega
    next => cases hget
  have habove : (log.drop offset).filter (fun r => offset ≤ r.offset) = log.drop offset := by
    refine List.filter_eq_self.mpr fun r hr => ?_
    obtain ⟨i, hget⟩ := List.mem_iff_getElem?.mp hr
    rw [List.getElem?_drop] at hget
    rw [hplace hget, decide_eq_true_eq]
    omega
  calc log.drop offset
    _ = (log.take offset ++ log.drop offset).filter fun r => offset ≤ r.offset := by
        rw [List.filter_append, hbelow, habove, List.nil_append]
    _ = log.filter fun r => offset ≤ r.offset := by rw [List.take_append_drop]

/-- **What a partition keeps is what it holds at and above its mark.** -/
theorem tail_eq_filter (l : Ledger) (topic : String) (partition : Nat) :
    (l.tail topic partition).records =
      (unreleased l.partitions l.base l.accepted topic).filter fun r =>
        r.partition == partition := by
  rw [unreleased, List.filter_filter, tail, l.drop_log, log_eq_filter, List.filter_filter]
  refine List.filter_congr fun r _ => ?_
  by_cases hp : r.partition = partition
  · subst hp
    rw [beq_self_eq_true, Bool.and_true, Bool.true_and, Bool.and_comm]
  · rw [beq_false_of_ne hp, Bool.and_false, Bool.and_false, Bool.false_and]

end Ledger

/-! ## 3. The listing -/

/-- Sorting by partition loses nothing. -/
theorem flatMap_filter_perm {α : Type} (f : α → Nat) (n : Nat) (xs : List α) :
    ((List.range n).flatMap fun p => xs.filter fun x => f x == p).Perm
      (xs.filter fun x => f x < n) := by
  induction n with
  | zero => simp
  | succ n ih =>
    have hsplit := List.filter_append_perm (fun x => decide (f x < n))
      (xs.filter fun x => f x < n + 1)
    rw [List.filter_filter, List.filter_filter] at hsplit
    have hlow : xs.filter (fun x => decide (f x < n) && decide (f x < n + 1)) =
        xs.filter fun x => f x < n := by
      refine List.filter_congr fun x _ => ?_
      by_cases h : f x < n
      · simp [h, Nat.lt_succ_of_lt h]
      · simp [h]
    have hlast : xs.filter (fun x => !decide (f x < n) && decide (f x < n + 1)) =
        xs.filter fun x => f x == n := by
      refine List.filter_congr fun x _ => ?_
      rw [Bool.eq_iff_iff]
      simp only [Bool.and_eq_true, Bool.not_eq_true', decide_eq_false_iff_not, decide_eq_true_eq,
        beq_iff_eq]
      omega
    rw [hlow, hlast] at hsplit
    rw [List.range_succ, List.flatMap_append, List.flatMap_singleton]
    exact (ih.append_right _).trans hsplit

/-- Records with increasing numbers are listed as they are, however they were kept. -/
theorem mergeSort_eq_of_perm {rs rs' : List Record} (hperm : rs.Perm rs')
    (hincreasing : rs'.Pairwise fun r r' => r.sequence < r'.sequence) :
    rs.mergeSort (fun r r' => r.sequence ≤ r'.sequence) = rs' := by
  have hsorted : (rs.mergeSort fun r r' => decide (r.sequence ≤ r'.sequence)).Pairwise
      fun r r' => r.sequence ≤ r'.sequence := by
    have h := @List.pairwise_mergeSort Record (fun r r' => decide (r.sequence ≤ r'.sequence))
      (fun a b c hab hbc => by simp only [decide_eq_true_eq] at hab hbc ⊢; omega)
      (fun a b => by simp only [Bool.or_eq_true, decide_eq_true_eq]; omega) rs
    exact h.imp fun h => by simpa using h
  have hmerged := (List.mergeSort_perm rs fun r r' => decide (r.sequence ≤ r'.sequence)).trans hperm
  refine List.Perm.eq_of_pairwise (fun a b ha hb hab hba => ?_) hsorted
    (hincreasing.imp Nat.le_of_lt) hmerged
  -- two records with one number are one record
  have hnodup : (rs'.map Record.sequence).Nodup :=
    List.pairwise_map.mpr (hincreasing.imp Nat.ne_of_lt)
  exact List.inj_on_of_nodup_map hnodup (hmerged.mem_iff.mp ha) hb (Nat.le_antisymm hab hba)

theorem pairwise_unreleased {as : List Publication} (h : Numbered as) (partitions : Nat)
    (base : String → Nat → Nat) (topic : String) :
    (unreleased partitions base as topic).Pairwise fun r r' => r.sequence < r'.sequence := by
  refine List.Pairwise.filter _ ?_
  rw [← List.pairwise_map (f := Record.sequence) (R := (· < ·)), map_sequence_placed,
    List.pairwise_map]
  exact h.pairwise

/-- A topic lists as many records as are counted. -/
theorem Transport.length_records (t : Transport) (topic : String) :
    (t.records topic).length = t.recordCount topic := by
  rw [records, List.length_mergeSort, List.length_flatMap, recordCount]
  rfl

namespace Refines

variable {t : Transport} {l : Ledger}

/-- What the partitions of a topic keep, one after another. -/
theorem flatMap_records (h : Refines t l) (topic : String) :
    (t.logsOf topic).flatMap PartitionLog.records =
      (List.range l.partitions).flatMap fun p => (l.tail topic p).records := by
  rw [t.logsOf_eq, h.logs, Ledger.kept?]
  by_cases hk : l.known topic = true
  · rw [if_pos hk, Option.getD_some, List.flatMap_map]
  · rw [if_neg hk, Option.getD_none, List.flatMap_nil]
    refine (List.flatMap_eq_nil_iff.mpr fun p _ => ?_).symm
    simp only [Ledger.tail, Ledger.log, l.appended_eq_nil h.pos fun e => hk e.1, List.mapIdx_nil,
      List.drop_nil]

/-- **A topic lists what was accepted on it and is not released**, in the order of acceptance. -/
theorem records_eq (h : Refines t l) (hnumbered : Numbered l.accepted) (topic : String) :
    t.records topic = unreleased l.partitions l.base l.accepted topic := by
  refine mergeSort_eq_of_perm ?_ (pairwise_unreleased hnumbered _ _ _)
  rw [h.flatMap_records]
  simp only [Ledger.tail_eq_filter]
  refine (flatMap_filter_perm Record.partition _ _).trans (.of_eq ?_)
  refine List.filter_eq_self.mpr fun r hr => ?_
  exact decide_eq_true (partition_lt_of_mem_placed h.pos (List.mem_filter.mp hr).1)

/-- The listing holds the records of a partition as a read shows them. -/
theorem filter_records (h : Refines t l) (hnumbered : Numbered l.accepted) (topic : String)
    (partition : Nat) :
    (t.records topic).filter (fun r => r.partition == partition) = t.read topic partition 0 := by
  rw [h.records_eq hnumbered, ← Ledger.tail_eq_filter, h.read_eq, Nat.zero_max]
  rfl

/-- **A publication is listed last, under the next number**, if it is accepted. -/
theorem records_publish (h : Refines t l) (hnumbered : Numbered l.accepted)
    (hf : l.failing = false) (topic key : String) (payload : Bytes) (name : String) :
    (t.publish topic key payload).2.records name = t.records name ++
      if name = topic then
        [⟨topic, t.partitionFor key, l.endOffset topic (t.partitionFor key), l.accepted.length, key,
          payload⟩]
      else [] := by
  have hpartition : t.partitionFor key = partitionOf l.partitions key := by
    rw [Transport.partitionFor, h.partitions]
  let a : Publication := ⟨topic, key, payload, l.accepted.length⟩
  have hoffset : l.accepted.countP (a.sharesPlace l.partitions) =
      l.endOffset topic (partitionOf l.partitions key) := List.countP_eq_length_filter
  calc (t.publish topic key payload).2.records name
    _ = unreleased l.partitions l.base (l.accepted ++ [a]) name :=
        (h.publish hf topic key payload).records_eq (hnumbered.publish topic key payload) name
    _ = _ := by
        rw [unreleased_concat (by rw [hoffset]; exact h.bounded _ _), hoffset,
          h.records_eq hnumbered, hpartition]
        rfl

end Refines

/-- **What the topics of a transport list**: `accepted` are the publications that it accepted, and
    `marks` say which records of a partition are released. -/
structure Listed (t : Transport) (marks : String → Nat → Nat) (accepted : List Publication) :
    Prop where
  /-- What was accepted is numbered in the order of acceptance, without gaps. -/
  numbered : accepted.map Publication.sequence = List.range accepted.length
  /-- A publication is refused, and then uses up no number; or it is listed at the end of its topic
      under the next number. -/
  publish : ∀ topic key payload,
    (∃ r, t.publish topic key payload = (.error r, t)) ∨
    ∃ r : Record, r.topic = topic ∧ r.key = key ∧ r.payload = payload ∧
      r.sequence = accepted.length ∧ (t.publish topic key payload).1 = .ok () ∧
      ∀ name, (t.publish topic key payload).2.records name =
        t.records name ++ if name = topic then [r] else []
  /-- A topic lists what was accepted on it and is not released. -/
  records : ∀ topic, t.records topic = unreleased t.partitions marks accepted topic
  increasing : ∀ topic, (t.records topic).Pairwise fun r r' => r.sequence < r'.sequence
  count : ∀ topic, (t.records topic).length = t.recordCount topic
  partition : ∀ topic partition,
    (t.records topic).filter (fun r => r.partition == partition) = t.read topic partition 0

/-- **A topic lists its history, without what was released**, after any run. -/
theorem listed_run (n : Nat) (ops : List Operation) :
    Listed ((Transport.empty n).run ops) ((Ledger.empty (max n 1)).run ops).base
      ((Transport.empty n).accepts ops) := by
  let t := (Transport.empty n).run ops
  let l := (Ledger.empty (max n 1)).run ops
  have h : Refines t l := refines_run n ops
  have hnumbered : Numbered l.accepted :=
    Numbered.run (l := .empty (max n 1)) rfl ops
  have haccepted : l.accepted = (Transport.empty n).accepts ops :=
    (refines_empty n).accepted_run ops
  rw [← haccepted]
  refine ⟨hnumbered, fun topic key payload => ?_, fun topic => ?_, fun topic => ?_,
    t.length_records, h.filter_records hnumbered⟩
  · cases hf : l.failing with
    | true =>
      have htf : t.failing = true := h.failing.trans hf
      exact .inl ⟨⟨topic, "broker unreachable"⟩, if_pos htf⟩
    | false =>
      refine .inr ⟨_, rfl, rfl, rfl, rfl, ?_, h.records_publish hnumbered hf topic key payload⟩
      rw [h.publish_fst, if_neg (by rw [hf]; decide)]
  · rw [h.records_eq hnumbered, h.partitions]
  · rw [h.records_eq hnumbered]
    exact pairwise_unreleased hnumbered _ _ _

end Catalogue
