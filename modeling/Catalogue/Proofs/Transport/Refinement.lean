import Catalogue.Proofs.Transport.Ledger

/-!
# A transport keeps the unreleased part of its ledger

A transport that starts empty and a ledger that starts empty stay together under all operations:

* `Refines` -- the transport keeps, for every topic on which something was accepted and for every
  partition, exactly the records at and above the mark;
* `Refines.apply`, `refines_run` -- one operation and any run of them keep it so;
* `Refines.read_eq`, `Refines.commit_snd`, `Refines.recordCount_eq` -- what the transport shows,
  said of the ledger;
* `AppendOnly` -- all of it together, with what an operation leaves alone; `appendOnly_run` --
  it holds after every run.
-/

namespace Catalogue

namespace Transport

/-- The logs of a topic, or nothing if it does not exist. -/
def logs? (t : Transport) (topic : String) : Option (List PartitionLog) :=
  (t.topics.find? fun l => l.name == topic).map TopicLog.logs

theorem logsOf_eq (t : Transport) (topic : String) : t.logsOf topic = (t.logs? topic).getD [] := rfl

theorem find?_updateTopic (topic : String) (fresh : List PartitionLog)
    (f : List PartitionLog → List PartitionLog) (ts : List TopicLog) (name : String) :
    ((updateTopic topic fresh f ts).find? fun l => l.name == name).map TopicLog.logs =
      if name = topic then
        some (f (((ts.find? fun l => l.name == topic).map TopicLog.logs).getD fresh))
      else (ts.find? fun l => l.name == name).map TopicLog.logs := by
  induction ts with
  | nil =>
    by_cases h : name = topic
    · simp [updateTopic, h]
    · simp [updateTopic, h, Ne.symm h]
  | cons l rest ih =>
    rw [updateTopic]
    by_cases hl : l.name = topic
    · rw [if_pos hl]
      by_cases h : name = topic
      · simp [h, hl]
      · have hne : ¬ topic = name := fun e => h e.symm
        simp [h, hl, hne]
    · rw [if_neg hl]
      by_cases hn : l.name = name
      · have h : ¬ name = topic := fun e => hl (hn.trans e)
        simp [hn, h]
      · have hb : (l.name == name) = false := by simpa using hn
        have ht : (l.name == topic) = false := by simpa using hl
        simp only [List.find?_cons, hb, ht, ih]

theorem find?_map_logs (topic : String) (f : List PartitionLog → List PartitionLog)
    (ts : List TopicLog) (name : String) :
    ((ts.map fun l => if l.name = topic then { l with logs := f l.logs } else l).find?
        fun l => l.name == name).map TopicLog.logs =
      ((ts.find? fun l => l.name == name).map TopicLog.logs).map
        (if name = topic then f else id) := by
  induction ts with
  | nil => simp
  | cons l rest ih =>
    rw [List.map_cons]
    have hname : (if l.name = topic then { l with logs := f l.logs } else l : TopicLog).name =
        l.name := by split <;> rfl
    by_cases hn : l.name = name
    · rw [List.find?_cons_of_pos (by rw [hname]; simpa using hn),
        List.find?_cons_of_pos (by simpa using hn)]
      by_cases h : name = topic
      · simp [hn, h]
      · simp [hn, h]
    · rw [List.find?_cons_of_neg (by rw [hname]; simpa using hn),
        List.find?_cons_of_neg (by simpa using hn), ih]

end Transport

namespace Ledger

/-! ## 1. What is not released -/

/-- Whether something was accepted on a topic. -/
def known (l : Ledger) (topic : String) : Bool := l.accepted.any fun a => a.topic == topic

/-- The records of a partition at and above its mark. -/
def tail (l : Ledger) (topic : String) (partition : Nat) : PartitionLog :=
  ⟨l.base topic partition, (l.log topic partition).drop (l.base topic partition)⟩

/-- What of a topic is not released, partition by partition. -/
def kept? (l : Ledger) (topic : String) : Option (List PartitionLog) :=
  if l.known topic then some ((List.range l.partitions).map (l.tail topic)) else none

theorem appended_eq_nil (l : Ledger) (hpos : 0 < l.partitions) {topic : String} {partition : Nat}
    (h : ¬(l.known topic ∧ partition < l.partitions)) : l.appended topic partition = [] := by
  unfold appended
  rw [List.filter_eq_nil_iff]
  intro a ha hb
  simp only [Bool.and_eq_true, beq_iff_eq] at hb
  refine h ⟨List.any_eq_true.mpr ⟨a, ha, by simpa using hb.1⟩, ?_⟩
  rw [← hb.2]
  exact partitionOf_lt hpos a.key

theorem endOffset_eq_zero (l : Ledger) (hpos : 0 < l.partitions) {topic : String}
    {partition : Nat} (h : ¬(l.known topic ∧ partition < l.partitions)) :
    l.endOffset topic partition = 0 := by
  rw [endOffset, l.appended_eq_nil hpos h, List.length_nil]

theorem commit_eq_self (l : Ledger) {topic : String} {partition offset : Nat}
    (h : l.committed topic partition offset = l.base topic partition) :
    l.commit topic partition offset = l := by
  unfold commit
  rw [h]
  congr
  funext t p
  split
  · rename_i e
    rw [e.1, e.2]
  · rfl

/-- A partition that does not exist has no mark to move. -/
theorem commit_absent (l : Ledger) (hb : l.Bounded) (hpos : 0 < l.partitions) {topic : String}
    {partition : Nat} (offset : Nat) (h : ¬(l.known topic ∧ partition < l.partitions)) :
    l.commit topic partition offset = l := by
  apply commit_eq_self
  have hle := hb topic partition
  have hend := l.endOffset_eq_zero hpos h
  unfold committed
  omega

theorem tail_publish (l : Ledger) (hb : l.Bounded) (topic key : String) (payload : Bytes)
    (t : String) (p : Nat) :
    (l.publish topic key payload).tail t p =
      if t = topic ∧ p = partitionOf l.partitions key then
        (l.tail t p).append ⟨t, p, (l.tail t p).endOffset, l.accepted.length, key, payload⟩
      else l.tail t p := by
  have hle := hb t p
  have hbase : (l.publish topic key payload).base t p = l.base t p := rfl
  unfold tail
  rw [log_publish, hbase]
  split
  · have hend : l.base t p + (l.endOffset t p - l.base t p) = l.endOffset t p := by omega
    simp only [PartitionLog.append, PartitionLog.endOffset, List.length_drop, length_log, hend]
    rw [List.drop_append_of_le_length (by rw [length_log]; exact hle)]
  · rfl

theorem tail_commit (l : Ledger) (topic : String) (partition offset : Nat) (hb : l.Bounded)
    (t : String) (p : Nat) :
    (l.commit topic partition offset).tail t p =
      if t = topic ∧ p = partition then ((l.tail t p).commit offset).1 else l.tail t p := by
  have hle := hb t p
  unfold tail
  rw [log_commit]
  by_cases h : t = topic ∧ p = partition
  · obtain ⟨rfl, rfl⟩ := h
    have hend : l.base t p + (l.endOffset t p - l.base t p) = l.endOffset t p := by omega
    rw [if_pos ⟨rfl, rfl⟩, base_commit_self]
    simp only [PartitionLog.commit, PartitionLog.committed, PartitionLog.endOffset,
      List.length_drop, length_log, hend, List.drop_drop, committed]
    congr 2
    omega
  · rw [if_neg h]
    simp [commit, h]

theorem foldr_add_eq_zero {ns : List Nat} (h : ∀ n ∈ ns, n = 0) : ns.foldr (· + ·) 0 = 0 := by
  induction ns with
  | nil => rfl
  | cons n ns ih =>
    rw [List.foldr_cons, ih fun m hm => h m (List.mem_cons_of_mem n hm), h n List.mem_cons_self]

theorem modify_map_range {α : Type} (n i : Nat) (f : Nat → α) (g : α → α) :
    ((List.range n).map f).modify i g =
      (List.range n).map fun p => if p = i then g (f p) else f p := by
  refine List.ext_getElem (by simp) fun p hp _ => ?_
  rw [List.getElem_modify]
  by_cases h : p = i
  · simp [h]
  · have h' : ¬ i = p := fun e => h e.symm
    simp [h, h']

theorem known_publish (l : Ledger) (topic key : String) (payload : Bytes) (t : String) :
    (l.publish topic key payload).known t = (l.known t || topic == t) := by
  simp [known, publish]

theorem kept?_publish (l : Ledger) (hb : l.Bounded) (topic key : String) (payload : Bytes)
    (name : String) :
    (l.publish topic key payload).kept? name =
      if name = topic then
        some (((List.range l.partitions).map (l.tail topic)).modify (partitionOf l.partitions key)
          fun log => log.append
            ⟨topic, partitionOf l.partitions key, log.endOffset, l.accepted.length, key, payload⟩)
      else l.kept? name := by
  rw [kept?, known_publish, modify_map_range]
  have hpart : (l.publish topic key payload).partitions = l.partitions := rfl
  by_cases hn : name = topic
  · subst hn
    rw [if_pos (by simp), if_pos rfl, hpart]
    refine congrArg some (List.map_congr_left fun p _ => ?_)
    rw [l.tail_publish hb]
    by_cases hp : p = partitionOf l.partitions key
    · simp [hp]
    · simp [hp]
  · have hne : (topic == name) = false := by simpa using fun e => hn e.symm
    rw [if_neg hn, hne, Bool.or_false, kept?, hpart]
    split
    · refine congrArg some (List.map_congr_left fun p _ => ?_)
      rw [l.tail_publish hb, if_neg (fun e => hn e.1)]
    · rfl

theorem kept?_commit (l : Ledger) (hb : l.Bounded) (topic : String) (partition offset : Nat)
    (name : String) :
    (l.commit topic partition offset).kept? name =
      (l.kept? name).map
        (if name = topic then fun logs => logs.modify partition (·.commit offset |>.1) else id) := by
  have hk : (l.commit topic partition offset).known name = l.known name := rfl
  have hpart : (l.commit topic partition offset).partitions = l.partitions := rfl
  rw [kept?, kept?, hk, hpart]
  split
  · rw [Option.map_some]
    by_cases hn : name = topic
    · rw [if_pos hn, modify_map_range]
      refine congrArg some (List.map_congr_left fun p _ => ?_)
      rw [l.tail_commit _ _ _ hb]
      simp [hn]
    · rw [if_neg hn, id]
      refine congrArg some (List.map_congr_left fun p _ => ?_)
      rw [l.tail_commit _ _ _ hb, if_neg (fun e => hn e.1)]
  · rfl

end Ledger

/-! ## 2. Transport and ledger side by side -/

/-- **The transport keeps what the ledger has not released.** -/
structure Refines (t : Transport) (l : Ledger) : Prop where
  partitions : t.partitions = l.partitions
  failing : t.failing = l.failing
  sequence : t.nextSequence = l.accepted.length
  bounded : l.Bounded
  logs : ∀ topic, t.logs? topic = l.kept? topic

theorem refines_empty (n : Nat) : Refines (.empty n) (.empty (max n 1)) where
  partitions := rfl
  failing := rfl
  sequence := rfl
  bounded := Ledger.bounded_empty _
  logs := fun _ => rfl

namespace Refines

variable {t : Transport} {l : Ledger}

theorem pos (h : Refines t l) : 0 < l.partitions := h.partitions ▸ t.partitions_pos

/-- The kept part of a partition is found where the partition exists. -/
theorem getElem?_logsOf (h : Refines t l) (topic : String) (partition : Nat) :
    (t.logsOf topic)[partition]? =
      if l.known topic ∧ partition < l.partitions then some (l.tail topic partition) else none := by
  rw [t.logsOf_eq, h.logs, Ledger.kept?]
  by_cases hk : l.known topic = true
  · by_cases hp : partition < l.partitions
    · simp [hk, hp]
    · simp [hk, hp]
  · simp [hk]

/-- The logs that a publication on a topic finds, or makes. -/
theorem logs?_getD (h : Refines t l) (topic : String) :
    (t.logs? topic).getD (List.replicate t.partitions .empty) =
      (List.range l.partitions).map (l.tail topic) := by
  rw [h.logs, Ledger.kept?]
  split
  · rfl
  · rename_i hk
    rw [Option.getD_none, h.partitions]
    refine List.ext_getElem (by simp) fun p hp _ => ?_
    have habs : l.appended topic p = [] := l.appended_eq_nil h.pos fun e => hk e.1
    have hle := h.bounded topic p
    simp only [Ledger.endOffset, habs, List.length_nil, Nat.le_zero] at hle
    simp [Ledger.tail, Ledger.log, habs, hle, PartitionLog.empty]

theorem publish (h : Refines t l) (hf : l.failing = false) (topic key : String) (payload : Bytes) :
    Refines (t.publish topic key payload).2 (l.publish topic key payload) := by
  have htf : t.failing = false := h.failing.trans hf
  rw [Transport.publish_of_working htf]
  refine ⟨h.partitions, h.failing, by simp [Ledger.publish, h.sequence], ?_, fun name => ?_⟩
  · have hb := h.bounded.apply (.publish topic key payload)
    simpa [Ledger.apply, hf] using hb
  · have hq : t.partitionFor key = partitionOf l.partitions key := by
      rw [Transport.partitionFor, h.partitions]
    have hd := h.logs?_getD topic
    have hl := h.logs name
    unfold Transport.logs? at hd hl ⊢
    unfold Transport.extended
    rw [Transport.find?_updateTopic, l.kept?_publish h.bounded, hd, hl, hq, h.sequence]

theorem commit (h : Refines t l) (topic : String) (partition offset : Nat) :
    Refines (t.commit topic partition offset).1 (l.commit topic partition offset) := by
  by_cases hin : l.known topic ∧ partition < l.partitions
  · have hat := h.getElem?_logsOf topic partition
    rw [if_pos hin] at hat
    have hcom : (t.commit topic partition offset).1 =
        { t with
          topics := t.topics.map fun l =>
            if l.name = topic then
              { l with logs := l.logs.modify partition (·.commit offset |>.1) }
            else l } := by
      simp only [Transport.commit, hat]
    rw [hcom]
    refine ⟨h.partitions, h.failing, h.sequence, ?_, fun name => ?_⟩
    · exact h.bounded.apply (.commit topic partition offset)
    · have hl := h.logs name
      unfold Transport.logs? at hl ⊢
      rw [Transport.find?_map_logs topic (fun logs => logs.modify partition (·.commit offset |>.1)),
        hl, l.kept?_commit h.bounded]
  · -- the ledger knows of every partition, but moves no mark where nothing was accepted
    have hat := h.getElem?_logsOf topic partition
    rw [if_neg hin] at hat
    have hcom : t.commit topic partition offset = (t, 0) := by simp only [Transport.commit, hat]
    rw [hcom, l.commit_absent h.bounded h.pos offset hin]
    exact h

/-- **One operation keeps transport and ledger together.** -/
theorem apply (h : Refines t l) (op : Operation) : Refines (t.apply op) (l.apply op) := by
  cases op with
  | publish topic key payload =>
    simp only [Transport.apply, Ledger.apply]
    split
    · rename_i hf
      have htf : t.failing = true := h.failing.trans hf
      rw [Transport.publish_of_failing htf]
      exact h
    · rename_i hf
      exact h.publish (by simpa using hf) topic key payload
  | commit topic partition offset => exact h.commit topic partition offset
  | read _ _ _ => exact h
  | setFailing on => exact ⟨h.partitions, rfl, h.sequence, h.bounded, h.logs⟩

theorem run (h : Refines t l) (ops : List Operation) : Refines (t.run ops) (l.run ops) := by
  induction ops generalizing t l with
  | nil => exact h
  | cons op ops ih => exact ih (h.apply op)

/-! ## 3. What a transport shows -/

/-- **A read shows the log from the offset on, or from the mark on if that is later.** -/
theorem read_eq (h : Refines t l) (topic : String) (partition offset : Nat) :
    t.read topic partition offset =
      (l.log topic partition).drop (max offset (l.base topic partition)) := by
  rw [Transport.read, h.getElem?_logsOf]
  by_cases hin : l.known topic ∧ partition < l.partitions
  · rw [if_pos hin]
    simp only [PartitionLog.readFrom, Ledger.tail, List.drop_drop]
    congr 1
    omega
  · rw [if_neg hin, Ledger.log, l.appended_eq_nil h.pos hin]
    simp

/-- **A commit says by how much it moves the mark.** -/
theorem commit_snd (h : Refines t l) (topic : String) (partition offset : Nat) :
    (t.commit topic partition offset).2 =
      (l.commit topic partition offset).base topic partition - l.base topic partition := by
  rw [Transport.commit, h.getElem?_logsOf]
  by_cases hin : l.known topic ∧ partition < l.partitions
  · have hle := h.bounded topic partition
    rw [if_pos hin, Ledger.base_commit_self]
    simp only [PartitionLog.commit, PartitionLog.committed, PartitionLog.endOffset, Ledger.tail,
      List.length_drop, Ledger.length_log, Ledger.committed]
    omega
  · rw [if_neg hin, l.commit_absent h.bounded h.pos offset hin, Nat.sub_self]

/-- **The count of a topic is what its partitions hold above their marks.** -/
theorem recordCount_eq (h : Refines t l) (topic : String) :
    t.recordCount topic =
      ((List.range l.partitions).map fun p =>
        l.endOffset topic p - l.base topic p).foldr (· + ·) 0 := by
  rw [Transport.recordCount, t.logsOf_eq, h.logs, Ledger.kept?]
  by_cases hk : l.known topic = true
  · simp only [hk, if_true, Option.getD_some, List.map_map]
    refine congrArg (List.foldr (· + ·) 0) (List.map_congr_left fun p _ => ?_)
    simp [Ledger.tail]
  · have hz : ∀ p, l.endOffset topic p = 0 := fun p =>
      l.endOffset_eq_zero h.pos fun e => hk e.1
    rw [if_neg hk]
    refine (Ledger.foldr_add_eq_zero fun n hn => ?_).symm
    obtain ⟨p, -, rfl⟩ := List.mem_map.mp hn
    rw [hz, Nat.zero_sub]

theorem publish_fst (h : Refines t l) (topic key : String) (payload : Bytes) :
    (t.publish topic key payload).1 =
      if l.failing then .error ⟨topic, "broker unreachable"⟩ else .ok () := by
  rw [← h.failing]
  cases hf : t.failing with
  | true => rw [Transport.publish_of_failing hf, if_pos rfl]
  | false => rw [Transport.publish_of_working hf, if_neg Bool.false_ne_true]

end Refines

/-- **Every run keeps transport and ledger together.** -/
theorem refines_run (n : Nat) (ops : List Operation) :
    Refines ((Transport.empty n).run ops) ((Ledger.empty (max n 1)).run ops) :=
  (refines_empty n).run ops

/-! ## 4. An append-only log -/

namespace Ledger

/-- The log of a partition is appended to only by operations about that partition. -/
theorem log_apply_of_place (l : Ledger) (op : Operation) {topic : String} {partition : Nat}
    (h : op.place? l.partitions ≠ some (topic, partition)) :
    (l.apply op).log topic partition = l.log topic partition := by
  cases op with
  | publish t key payload =>
    simp only [apply]
    split
    · rfl
    · rw [log_publish, if_neg]
      rintro ⟨rfl, rfl⟩
      exact h rfl
  | commit _ _ _ => rfl
  | read _ _ _ => rfl
  | setFailing _ => rfl

theorem base_apply_of_place (l : Ledger) (op : Operation) {topic : String} {partition : Nat}
    (h : op.place? l.partitions ≠ some (topic, partition)) :
    (l.apply op).base topic partition = l.base topic partition := by
  apply base_apply
  rintro offset rfl
  exact h rfl

end Ledger

/-- **What a transport shows is an append-only log per topic and partition.** -/
structure AppendOnly (t : Transport) (l : Ledger) : Prop where
  /-- A read shows the log from the offset on, but nothing below the mark. -/
  read : ∀ topic partition offset, t.read topic partition offset =
    (l.log topic partition).drop (max offset (l.base topic partition))
  /-- The record at an offset is the publication with that number among those of its topic whose
      key belongs to the partition. -/
  record : ∀ topic partition i, (l.log topic partition)[i]? =
    (l.accepted.filter fun a =>
        a.topic == topic && partitionOf t.partitions a.key == partition)[i]?.map fun a =>
      (⟨topic, partition, i, a.sequence, a.key, a.payload⟩ : Record)
  /-- A publication is accepted unless the transport fails, and then changes nothing. -/
  publish : ∀ topic key payload, t.publish topic key payload =
    if l.failing then (.error ⟨topic, "broker unreachable"⟩, t)
    else (.ok (), t.apply (.publish topic key payload))
  /-- A commit says by how much the mark moves, which is up to the offset or the end. -/
  commit : ∀ topic partition offset, (t.commit topic partition offset).2 =
    max (l.base topic partition) (min offset (l.log topic partition).length) -
      l.base topic partition
  /-- What is counted are the records above the marks. -/
  count : ∀ topic, t.recordCount topic = ((List.range t.partitions).map fun p =>
    (l.log topic p).length - l.base topic p).foldr (· + ·) 0
  /-- An operation is not seen by reads of any other topic or partition. -/
  read_frame : ∀ op topic partition offset,
    op.place? t.partitions ≠ some (topic, partition) →
    (t.apply op).read topic partition offset = t.read topic partition offset
  /-- An operation is not seen by counts of any other topic. -/
  count_frame : ∀ op topic, (∀ partition, op.place? t.partitions ≠ some (topic, partition)) →
    (t.apply op).recordCount topic = t.recordCount topic
  /-- A partition that does not exist shows nothing, and a commit there changes nothing. -/
  absent : ∀ topic partition offset,
    (∀ a ∈ l.accepted, a.topic ≠ topic) ∨ t.partitions ≤ partition →
    t.read topic partition offset = [] ∧ t.commit topic partition offset = (t, 0)

theorem Refines.appendOnly {t : Transport} {l : Ledger} (h : Refines t l) : AppendOnly t l where
  read := h.read_eq
  record topic partition i := by
    rw [h.partitions]
    exact l.getElem?_log topic partition i
  publish topic key payload := by
    have hfst := h.publish_fst topic key payload
    by_cases hf : l.failing = true
    · simp [Transport.publish, h.failing, hf]
    · rw [if_neg hf] at hfst ⊢
      exact Prod.ext hfst rfl
  commit topic partition offset := by
    rw [h.commit_snd, Ledger.base_commit_self, Ledger.length_log]
    rfl
  count topic := by
    rw [h.recordCount_eq, h.partitions]
    simp only [Ledger.length_log]
  read_frame op topic partition offset hop := by
    rw [h.partitions] at hop
    rw [(h.apply op).read_eq, h.read_eq, l.log_apply_of_place op hop, l.base_apply_of_place op hop]
  count_frame op topic hop := by
    rw [h.partitions] at hop
    rw [(h.apply op).recordCount_eq, h.recordCount_eq, l.apply_partitions]
    refine congrArg (List.foldr (· + ·) 0) (List.map_congr_left fun p _ => ?_)
    rw [← Ledger.length_log, ← Ledger.length_log, l.log_apply_of_place op (hop p),
      l.base_apply_of_place op (hop p)]
  absent topic partition offset habs := by
    have hin : ¬(l.known topic ∧ partition < l.partitions) := by
      rintro ⟨hk, hp⟩
      obtain ⟨a, ha, hat⟩ := List.any_eq_true.mp hk
      rcases habs with habs | habs
      · exact habs a ha (by simpa using hat)
      · rw [h.partitions] at habs
        omega
    have hat := h.getElem?_logsOf topic partition
    rw [if_neg hin] at hat
    exact ⟨by simp only [Transport.read, hat], by simp only [Transport.commit, hat]⟩

/-- **The transport refines an append-only log**: after any operations on a transport that started
    empty, with any number of partitions, it shows the ledger of the same operations. -/
theorem appendOnly_run (n : Nat) (ops : List Operation) :
    AppendOnly ((Transport.empty n).run ops) ((Ledger.empty (max n 1)).run ops) :=
  (refines_run n ops).appendOnly

end Catalogue
