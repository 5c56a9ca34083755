import Catalogue.Transport.Basic

/-!
# The ledger of a transport

A transport forgets what is released. The ledger does not: it is the transport as it would be had
nothing ever been released, with a mark per partition below which records count as released. What
a transport shows is stated against it.

* `Operation`, `Transport.run` -- what can be done to a transport, and doing it in order
  (`Transport.publish_of_working`, `Transport.publish_of_failing`: the two ends of a publication);
* `Publication` -- what the ledger keeps of an accepted record;
* `Ledger` -- all publications in the order of their acceptance, and the marks;
* `Ledger.appended`, `Ledger.log` -- the publications of one partition, and its records;
* `Ledger.apply`, `Ledger.run` -- the operations on the ledger.

The ledger grows and its marks only move up (`log_prefix_apply`, `base_le_apply`), and no mark is
past the end of its partition (`Bounded.apply`).
-/

namespace Catalogue

/-- What can be done to a transport. -/
inductive Operation where
  | publish (topic key : String) (payload : Bytes)
  | commit (topic : String) (partition offset : Nat)
  | read (topic : String) (partition offset : Nat)
  | setFailing (on : Bool)
  deriving DecidableEq, Repr

/-- The topic and the partition that an operation is about, among `partitions`. -/
def Operation.place? (partitions : Nat) : Operation → Option (String × Nat)
  | .publish topic key _ => some (topic, partitionOf partitions key)
  | .commit topic partition _ => some (topic, partition)
  | .read _ _ _ => none
  | .setFailing _ => none

namespace Transport

/-- The transport after an operation. -/
def apply (t : Transport) : Operation → Transport
  | .publish topic key payload => (t.publish topic key payload).2
  | .commit topic partition offset => (t.commit topic partition offset).1
  | .read _ _ _ => t
  | .setFailing on => t.setFailing on

/-- The transport after operations in order. -/
def run (t : Transport) (ops : List Operation) : Transport := ops.foldl apply t

/-- What an accepted record makes of the log of its partition. -/
def extended (t : Transport) (topic key : String) (payload : Bytes) (log : PartitionLog) :
    PartitionLog :=
  log.append ⟨topic, t.partitionFor key, log.endOffset, t.nextSequence, key, payload⟩

variable {t : Transport}

/-- A failing transport refuses a record, and nothing changes. -/
theorem publish_of_failing (h : t.failing = true) (topic key : String) (payload : Bytes) :
    t.publish topic key payload = (.error ⟨topic, "broker unreachable"⟩, t) := if_pos h

/-- A transport that works accepts a record under the next number. -/
theorem publish_of_working (h : t.failing = false) (topic key : String) (payload : Bytes) :
    t.publish topic key payload =
      (.ok (),
        { t with
          topics := updateTopic topic (List.replicate t.partitions .empty)
            (fun logs => logs.modify (t.partitionFor key) (t.extended topic key payload)) t.topics
          nextSequence := t.nextSequence + 1 }) := by
  unfold publish
  rw [h]
  rfl

end Transport

/-- An accepted record, without its place. -/
structure Publication where
  topic : String
  key : String
  payload : Bytes
  /-- The place among all accepted records. -/
  sequence : Nat
  deriving DecidableEq, Repr

/-- The record of a publication in its place. -/
def Publication.record (a : Publication) (partition offset : Nat) : Record :=
  ⟨a.topic, partition, offset, a.sequence, a.key, a.payload⟩

/-- Everything that was ever accepted, and what of it counts as released. -/
structure Ledger where
  partitions : Nat
  /-- All publications, in the order of their acceptance. -/
  accepted : List Publication
  /-- The offset below which the records of a partition are released. -/
  base : String → Nat → Nat
  failing : Bool

namespace Ledger

/-! ## 1. The publications of a partition -/

/-- The ledger before anything has happened. -/
def empty (partitions : Nat) : Ledger := ⟨partitions, [], fun _ _ => 0, false⟩

/-- The publications on a topic whose key belongs to a partition. -/
def appended (l : Ledger) (topic : String) (partition : Nat) : List Publication :=
  l.accepted.filter fun a => a.topic == topic && partitionOf l.partitions a.key == partition

/-- The records of a partition: the publications in their places. -/
def log (l : Ledger) (topic : String) (partition : Nat) : List Record :=
  (l.appended topic partition).mapIdx fun i a => a.record partition i

/-- The offset of the next record of a partition. -/
def endOffset (l : Ledger) (topic : String) (partition : Nat) : Nat :=
  (l.appended topic partition).length

/-- Where a commit moves the mark: never down, and not past the end. -/
def committed (l : Ledger) (topic : String) (partition offset : Nat) : Nat :=
  max (l.base topic partition) (min offset (l.endOffset topic partition))

/-! ## 2. The operations -/

/-- Takes a publication. -/
def publish (l : Ledger) (topic key : String) (payload : Bytes) : Ledger :=
  { l with accepted := l.accepted ++ [⟨topic, key, payload, l.accepted.length⟩] }

/-- Moves the mark of a partition. -/
def commit (l : Ledger) (topic : String) (partition offset : Nat) : Ledger :=
  { l with
    base := fun t p =>
      if t = topic ∧ p = partition then l.committed topic partition offset else l.base t p }

/-- The ledger after an operation. -/
def apply (l : Ledger) : Operation → Ledger
  | .publish topic key payload => if l.failing then l else l.publish topic key payload
  | .commit topic partition offset => l.commit topic partition offset
  | .read _ _ _ => l
  | .setFailing on => { l with failing := on }

/-- The ledger after operations in order. -/
def run (l : Ledger) (ops : List Operation) : Ledger := ops.foldl apply l

@[simp] theorem apply_partitions (l : Ledger) (op : Operation) :
    (l.apply op).partitions = l.partitions := by
  cases op with
  | publish topic key payload => simp only [apply]; split <;> rfl
  | commit _ _ _ => rfl
  | read _ _ _ => rfl
  | setFailing _ => rfl

/-! ## 3. What a publication adds -/

theorem run_partitions (l : Ledger) (ops : List Operation) :
    (l.run ops).partitions = l.partitions := by
  induction ops generalizing l with
  | nil => rfl
  | cons op ops ih => exact (ih (l.apply op)).trans (l.apply_partitions op)

@[simp] theorem length_log (l : Ledger) (topic : String) (partition : Nat) :
    (l.log topic partition).length = l.endOffset topic partition := by
  simp [log, endOffset]

/-- **The record at an offset is the publication with that number, in its place.** -/
theorem getElem?_log (l : Ledger) (topic : String) (partition i : Nat) :
    (l.log topic partition)[i]? =
      (l.appended topic partition)[i]?.map fun a =>
        ⟨topic, partition, i, a.sequence, a.key, a.payload⟩ := by
  rw [log, List.getElem?_mapIdx]
  cases h : (l.appended topic partition)[i]? with
  | none => rfl
  | some a =>
    have ha := List.mem_of_getElem? h
    simp only [appended, List.mem_filter, Bool.and_eq_true, beq_iff_eq] at ha
    simp [Publication.record, ha.2.1]

/-- A record stands at its offset, in the partition of its key. -/
theorem place_of_getElem? {l : Ledger} {topic : String} {partition i : Nat} {r : Record}
    (h : (l.log topic partition)[i]? = some r) :
    r.offset = i ∧ r.partition = partition ∧ partitionOf l.partitions r.key = partition := by
  rw [getElem?_log] at h
  obtain ⟨a, ha, rfl⟩ := Option.map_eq_some_iff.mp h
  have hmem := (List.mem_filter.mp (List.mem_of_getElem? ha)).2
  simp only [Bool.and_eq_true, beq_iff_eq] at hmem
  exact ⟨rfl, rfl, hmem.2⟩

/-- The records of a partition stand in the order of their offsets. -/
theorem pairwise_log (l : Ledger) (topic : String) (partition : Nat) :
    (l.log topic partition).Pairwise fun r r' => r.offset < r'.offset := by
  rw [List.pairwise_iff_getElem]
  intro i j hi hj hij
  have hfirst := (place_of_getElem? (List.getElem?_eq_getElem hi)).1
  have hsecond := (place_of_getElem? (List.getElem?_eq_getElem hj)).1
  rw [hfirst, hsecond]
  exact hij

theorem appended_publish (l : Ledger) (topic key : String) (payload : Bytes) (t : String) (p : Nat) :
    (l.publish topic key payload).appended t p =
      if t = topic ∧ p = partitionOf l.partitions key then
        l.appended t p ++ [⟨topic, key, payload, l.accepted.length⟩]
      else l.appended t p := by
  simp only [appended, publish, List.filter_append]
  by_cases h : t = topic ∧ p = partitionOf l.partitions key
  · rw [if_pos h, List.filter_cons_of_pos (by simp [h.1, h.2]), List.filter_nil]
  · have h' : ¬(topic = t ∧ partitionOf l.partitions key = p) := fun e => h ⟨e.1.symm, e.2.symm⟩
    rw [if_neg h, List.filter_cons_of_neg (by simpa using h'), List.filter_nil, List.append_nil]

theorem log_publish (l : Ledger) (topic key : String) (payload : Bytes) (t : String) (p : Nat) :
    (l.publish topic key payload).log t p =
      if t = topic ∧ p = partitionOf l.partitions key then
        l.log t p ++ [⟨t, p, l.endOffset t p, l.accepted.length, key, payload⟩]
      else l.log t p := by
  unfold log
  rw [appended_publish]
  by_cases h : t = topic ∧ p = partitionOf l.partitions key
  · simp [h, Publication.record, endOffset]
  · simp [h]

@[simp] theorem log_commit (l : Ledger) (topic : String) (partition offset : Nat) (t : String)
    (p : Nat) : (l.commit topic partition offset).log t p = l.log t p := rfl

/-- **The log of a partition is only ever appended to.** -/
theorem log_prefix_apply (l : Ledger) (op : Operation) (topic : String) (partition : Nat) :
    ∃ more, (l.apply op).log topic partition = l.log topic partition ++ more := by
  cases op with
  | publish t key payload =>
    simp only [apply]
    split
    · exact ⟨[], by simp⟩
    · rw [log_publish]
      split
      · exact ⟨_, rfl⟩
      · exact ⟨[], by simp⟩
  | commit _ _ _ => exact ⟨[], by simp [apply]⟩
  | read _ _ _ => exact ⟨[], by simp [apply]⟩
  | setFailing _ => exact ⟨[], by simp [apply, log, appended]⟩

theorem endOffset_le_apply (l : Ledger) (op : Operation) (topic : String) (partition : Nat) :
    l.endOffset topic partition ≤ (l.apply op).endOffset topic partition := by
  obtain ⟨more, h⟩ := l.log_prefix_apply op topic partition
  have := congrArg List.length h
  rw [List.length_append, length_log, length_log] at this
  omega

/-! ## 4. The marks -/

/-- An operation moves no mark but that of the partition it commits. -/
theorem base_apply (l : Ledger) (op : Operation) (topic : String) (partition : Nat)
    (h : ∀ offset, op ≠ .commit topic partition offset) :
    (l.apply op).base topic partition = l.base topic partition := by
  cases op with
  | publish t key payload => simp only [apply]; split <;> rfl
  | commit t p offset =>
    have hne : ¬(topic = t ∧ partition = p) := by
      rintro ⟨rfl, rfl⟩
      exact h offset rfl
    simp [apply, commit, hne]
  | read _ _ _ => rfl
  | setFailing _ => rfl

theorem base_commit_self (l : Ledger) (topic : String) (partition offset : Nat) :
    (l.commit topic partition offset).base topic partition =
      l.committed topic partition offset := by
  simp [commit]

theorem base_le_apply (l : Ledger) (op : Operation) (topic : String) (partition : Nat) :
    l.base topic partition ≤ (l.apply op).base topic partition := by
  by_cases h : ∀ offset, op ≠ .commit topic partition offset
  · exact Nat.le_of_eq (base_apply l op topic partition h).symm
  · simp only [Classical.not_forall, Classical.not_not] at h
    obtain ⟨offset, rfl⟩ := h
    simp only [apply, base_commit_self, committed]
    omega

/-- No mark is past the end of its partition. -/
def Bounded (l : Ledger) : Prop :=
  ∀ topic partition, l.base topic partition ≤ l.endOffset topic partition

theorem bounded_empty (partitions : Nat) : (empty partitions).Bounded :=
  fun _ _ => Nat.zero_le _

theorem Bounded.apply {l : Ledger} (h : l.Bounded) (op : Operation) : (l.apply op).Bounded := by
  intro topic partition
  have hend := l.endOffset_le_apply op topic partition
  have hle := h topic partition
  by_cases hop : ∀ offset, op ≠ .commit topic partition offset
  · rw [base_apply l op topic partition hop]
    omega
  · simp only [Classical.not_forall, Classical.not_not] at hop
    obtain ⟨offset, rfl⟩ := hop
    simp only [Ledger.apply, base_commit_self, committed] at hend ⊢
    omega

end Ledger

end Catalogue
