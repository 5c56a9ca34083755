import Catalogue.Proofs.Transport.Ledger

/-!
# A transport within its limits

Offsets and sequence numbers are words of 64 bits, and the logs of a topic are found by number. This
file does the operations of a transport once more, with every step that could go wrong as a partial
one: a sum that does not fit, a difference below zero, a remainder by zero, a place that does not
exist. None of them goes wrong as long as fewer than 2^64 records are published.

* `wordLimit`, `plus?`, `minus?`, `remainder?`, `drain?`, `changeAt?` -- the steps that may fail;
* `PartitionLog.commit?`, `Transport.publish?`, `Transport.commit?`, `Transport.applied?` -- the
  operations made of them;
* `Transport.Contained` -- the invariant: every topic has a log per partition, and no log ends above
  the sequence (`contained_empty`, `Contained.apply`);
* `Transport.Contained.applied?_eq` -- where it holds, the operations made of partial steps are the
  operations;
* `Transport.Safe`, `Transport.Contained.safe` -- what that means for every log of the transport.
-/

namespace Catalogue

/-! ## 1. Steps that may fail -/

/-- The numbers of a word are those below. -/
def wordLimit : Nat := 18446744073709551616

/-- A sum, if it fits into a word. -/
def plus? (a b : Nat) : Option Nat := if a + b < wordLimit then some (a + b) else none

/-- A difference, if it is not below zero. -/
def minus? (a b : Nat) : Option Nat := if b ≤ a then some (a - b) else none

/-- A remainder, unless the divisor is zero. -/
def remainder? (a b : Nat) : Option Nat := if b = 0 then none else some (a % b)

section

variable {α : Type}

/-- A list without its first elements, if it has so many. -/
def drain? (n : Nat) (l : List α) : Option (List α) :=
  if n ≤ l.length then some (l.drop n) else none

/-- A list with the element at a place changed, if the place exists and the change succeeds. -/
def changeAt? (l : List α) (i : Nat) (f : α → Option α) : Option (List α) :=
  l[i]?.bind fun a => (f a).map fun b => l.set i b

theorem plus?_eq {a b : Nat} (h : a + b < wordLimit) : plus? a b = some (a + b) := if_pos h

theorem minus?_eq {a b : Nat} (h : b ≤ a) : minus? a b = some (a - b) := if_pos h

theorem remainder?_eq {b : Nat} (h : 0 < b) (a : Nat) : remainder? a b = some (a % b) :=
  if_neg (Nat.ne_of_gt h)

theorem drain?_eq {n : Nat} {l : List α} (h : n ≤ l.length) : drain? n l = some (l.drop n) :=
  if_pos h

theorem set_eq_modify {l : List α} {i : Nat} (hi : i < l.length) (g : α → α) :
    l.set i (g l[i]) = l.modify i g := by
  refine List.ext_getElem (by simp) fun j hj _ => ?_
  rw [List.getElem_set, List.getElem_modify]
  by_cases h : i = j
  · simp only [h]
  · rw [if_neg h, if_neg h]

theorem changeAt?_eq {l : List α} {i : Nat} {f : α → Option α} {g : α → α} (hi : i < l.length)
    (hf : ∀ a ∈ l, f a = some (g a)) : changeAt? l i f = some (l.modify i g) := by
  rw [changeAt?, List.getElem?_eq_getElem hi, Option.bind_some, hf _ (List.getElem_mem hi),
    Option.map_some, set_eq_modify hi]

/-- A map whose values are all there. -/
theorem mapM_eq_some {β : Type} {l : List α} {f : α → Option β} {g : α → β}
    (h : ∀ a ∈ l, f a = some (g a)) : l.mapM f = some (l.map g) := by
  induction l with
  | nil => rfl
  | cons a l ih =>
    obtain ⟨ha, hl⟩ := List.forall_mem_cons.mp h
    rw [List.mapM_cons, ha, ih hl]
    rfl

/-- What holds of the changed element and of those that are kept holds after a change. -/
theorem forall_modify {P Q : α → Prop} {l : List α} {f : α → α} (h : ∀ a ∈ l, P a)
    (kept : ∀ a, P a → Q a) (changed : ∀ a, P a → Q (f a)) (i : Nat) :
    ∀ a ∈ l.modify i f, Q a := by
  intro a ha
  obtain ⟨j, hj⟩ := List.mem_iff_getElem?.mp ha
  rw [List.getElem?_modify] at hj
  obtain ⟨b, hb, rfl⟩ := Option.map_eq_some_iff.mp hj
  have hPb := h b (List.mem_of_getElem? hb)
  show Q (if i = j then f b else b)
  split
  · exact changed b hPb
  · exact kept b hPb

end

/-! ## 2. Operations made of such steps -/

namespace PartitionLog

/-- The offset of the next record, if it is one. -/
def endOffset? (l : PartitionLog) : Option Nat := plus? l.base l.records.length

/-- Releases the records below an offset, and says how many. -/
def commit? (l : PartitionLog) (offset : Nat) : Option (PartitionLog × Nat) := do
  let last ← l.endOffset?
  let target := min offset last
  if target ≤ l.base then some (l, 0)
  else
    let released ← minus? target l.base
    let rest ← drain? released l.records
    some (⟨target, rest⟩, released)

end PartitionLog

namespace Transport

/-- The topics with one topic's logs changed, if the change succeeds. -/
def updateTopic? (topic : String) (fresh : List PartitionLog)
    (f : List PartitionLog → Option (List PartitionLog)) : List TopicLog → Option (List TopicLog)
  | [] => (f fresh).map fun logs => [⟨topic, logs⟩]
  | l :: rest =>
    if l.name = topic then (f l.logs).map fun logs => ⟨l.name, logs⟩ :: rest
    else (updateTopic? topic fresh f rest).map (l :: ·)

/-- What an accepted record makes of the log of a partition. -/
def extended? (t : Transport) (topic key : String) (payload : Bytes) (partition : Nat)
    (log : PartitionLog) : Option PartitionLog :=
  log.endOffset?.map fun offset =>
    log.append ⟨topic, partition, offset, t.nextSequence, key, payload⟩

/-- Publishes a record, unless the transport fails. -/
def publish? (t : Transport) (topic key : String) (payload : Bytes) :
    Option (Except Refusal Unit × Transport) := do
  let partition ← remainder? (sipHash (bytesOf key ++ [0xFF])).toNat t.partitions
  if t.failing then some (.error ⟨topic, "broker unreachable"⟩, t)
  else
    let next ← plus? t.nextSequence 1
    let topics ← updateTopic? topic (List.replicate t.partitions .empty)
      (fun logs => changeAt? logs partition (t.extended? topic key payload partition)) t.topics
    some (.ok (), { t with topics := topics, nextSequence := next })

/-- A topic whose records of a partition below an offset are released, if it has the name. -/
def released? (topic : String) (partition offset : Nat) (l : TopicLog) : Option TopicLog :=
  if l.name = topic then
    (changeAt? l.logs partition fun log => (log.commit? offset).map Prod.fst).map fun logs =>
      { l with logs := logs }
  else some l

/-- Releases the records of a partition below an offset, and says how many. -/
def commit? (t : Transport) (topic : String) (partition offset : Nat) : Option (Transport × Nat) :=
  match (t.logsOf topic)[partition]? with
  | some log => do
    let topics ← t.topics.mapM (released? topic partition offset)
    let (_, released) ← log.commit? offset
    some ({ t with topics := topics }, released)
  | none => some (t, 0)

/-- The transport after an operation. A read computes nothing that could fail: the number of records
    to pass over is zero for an offset below the first. -/
def applied? (t : Transport) : Operation → Option Transport
  | .publish topic key payload => (t.publish? topic key payload).map Prod.snd
  | .commit topic partition offset => (t.commit? topic partition offset).map Prod.fst
  | .read _ _ _ => some t
  | .setFailing on => some (t.setFailing on)

end Transport

/-- Whether an operation publishes a record. -/
def Operation.isPublish : Operation → Bool
  | .publish _ _ _ => true
  | .commit _ _ _ => false
  | .read _ _ _ => false
  | .setFailing _ => false

/-! ## 3. The invariant -/

/-- **A log below a limit**: it ends there at most, and its records come before its end. -/
structure PartitionLog.Within (limit : Nat) (l : PartitionLog) : Prop where
  endOffset_le : l.endOffset ≤ limit
  offset_lt : ∀ r ∈ l.records, r.offset < l.endOffset

namespace PartitionLog

variable {l : PartitionLog} {limit : Nat}

theorem within_empty (limit : Nat) : PartitionLog.empty.Within limit :=
  ⟨Nat.zero_le _, fun _ hr => absurd hr List.not_mem_nil⟩

theorem Within.mono (h : l.Within limit) {limit' : Nat} (hle : limit ≤ limit') : l.Within limit' :=
  ⟨Nat.le_trans h.endOffset_le hle, h.offset_lt⟩

/-- A record that is appended at the end moves the end past itself. -/
theorem Within.append (h : l.Within limit) {r : Record} (hr : r.offset = l.endOffset) :
    (l.append r).Within (limit + 1) where
  endOffset_le := by
    rw [endOffset_append]
    exact Nat.succ_le_succ h.endOffset_le
  offset_lt r' hr' := by
    rw [endOffset_append]
    rcases List.mem_append.mp hr' with hr' | hr'
    · exact Nat.lt_succ_of_lt (h.offset_lt r' hr')
    · rw [List.mem_singleton.mp hr', hr]
      exact Nat.lt_succ_self _

/-- A commit does not move the end. -/
theorem Within.commit (h : l.Within limit) (offset : Nat) : (l.commit offset).1.Within limit where
  endOffset_le := by
    rw [endOffset_commit]
    exact h.endOffset_le
  offset_lt r hr := by
    rw [endOffset_commit]
    exact h.offset_lt r (List.mem_of_mem_drop hr)

theorem Within.endOffset?_eq (h : l.Within limit) (hlimit : limit < wordLimit) :
    l.endOffset? = some l.endOffset :=
  plus?_eq (Nat.lt_of_le_of_lt h.endOffset_le hlimit)

/-- **A commit takes nothing from less, and no more records than there are.** -/
theorem Within.commit?_eq (h : l.Within limit) (hlimit : limit < wordLimit) (offset : Nat) :
    l.commit? offset = some (l.commit offset) := by
  have hcommitted : l.committed offset = max l.base (min offset l.endOffset) := rfl
  simp only [commit?, h.endOffset?_eq hlimit, Option.bind_eq_bind, Option.bind_some]
  by_cases hle : min offset l.endOffset ≤ l.base
  · rw [if_pos hle, PartitionLog.commit, hcommitted, Nat.max_eq_left hle, Nat.sub_self,
      List.drop_zero]
  · have hlt := Nat.lt_of_not_le hle
    have hlength : min offset l.endOffset - l.base ≤ l.records.length :=
      Nat.sub_le_iff_le_add'.mpr (Nat.min_le_right _ _)
    rw [if_neg hle, minus?_eq (Nat.le_of_lt hlt), Option.bind_some, drain?_eq hlength,
      Option.bind_some, PartitionLog.commit, hcommitted, Nat.max_eq_right (Nat.le_of_lt hlt)]

/-- A log whose end is no word cannot be committed. -/
example : commit? ⟨18446744073709551615, [⟨"t", 0, 0, 0, "1", []⟩]⟩ 0 = none := by decide

end PartitionLog

/-- **A topic below a limit**: as many logs as there are partitions, and each of them below it. -/
structure TopicLog.Within (partitions limit : Nat) (l : TopicLog) : Prop where
  length : l.logs.length = partitions
  logs : ∀ log ∈ l.logs, log.Within limit

/-- A topic stays below a limit when one of its logs is changed. -/
theorem TopicLog.Within.modify {partitions limit limit' : Nat} {l : TopicLog}
    (h : l.Within partitions limit) (hle : limit ≤ limit') {f : PartitionLog → PartitionLog}
    (hf : ∀ log : PartitionLog, log.Within limit → (f log).Within limit') (i : Nat) :
    TopicLog.Within partitions limit' ⟨l.name, l.logs.modify i f⟩ where
  length := (List.length_modify _ _ _).trans h.length
  logs := forall_modify h.logs (fun _ hlog => hlog.mono hle) hf i

theorem TopicLog.Within.mono {partitions limit limit' : Nat} {l : TopicLog}
    (h : l.Within partitions limit) (hle : limit ≤ limit') : l.Within partitions limit' :=
  ⟨h.length, fun log hlog => (h.logs log hlog).mono hle⟩

namespace Transport

/-- What holds of the changed topic and of those that are kept holds after an update. -/
theorem forall_updateTopic {P Q : TopicLog → Prop} {topic : String} {fresh : List PartitionLog}
    {f : List PartitionLog → List PartitionLog} {ts : List TopicLog} (h : ∀ l ∈ ts, P l)
    (kept : ∀ l, P l → Q l) (hfresh : P ⟨topic, fresh⟩)
    (changed : ∀ l : TopicLog, P l → Q ⟨l.name, f l.logs⟩) :
    ∀ l ∈ updateTopic topic fresh f ts, Q l := by
  induction ts with
  | nil => exact List.forall_mem_singleton.mpr (changed _ hfresh)
  | cons l rest ih =>
    obtain ⟨hl, hrest⟩ := List.forall_mem_cons.mp h
    rw [updateTopic]
    split
    · exact List.forall_mem_cons.mpr ⟨changed l hl, fun l' hl' => kept l' (hrest l' hl')⟩
    · exact List.forall_mem_cons.mpr ⟨kept l hl, ih hrest⟩

theorem updateTopic?_eq {topic : String} {fresh : List PartitionLog}
    {f : List PartitionLog → Option (List PartitionLog)}
    {g : List PartitionLog → List PartitionLog} {ts : List TopicLog}
    (hfresh : f fresh = some (g fresh)) (h : ∀ l ∈ ts, f l.logs = some (g l.logs)) :
    updateTopic? topic fresh f ts = some (updateTopic topic fresh g ts) := by
  induction ts with
  | nil => rw [updateTopic?, hfresh, Option.map_some, updateTopic]
  | cons l rest ih =>
    obtain ⟨hl, hrest⟩ := List.forall_mem_cons.mp h
    rw [updateTopic?, updateTopic]
    split
    · rw [hl, Option.map_some]
    · rw [ih hrest, Option.map_some]

/-- **What a transport contains is below its sequence**, and every topic has a log per partition. -/
def Contained (t : Transport) : Prop := ∀ l ∈ t.topics, l.Within t.partitions t.nextSequence

theorem contained_empty (n : Nat) : (empty n).Contained := fun _ hl => absurd hl List.not_mem_nil

/-- The logs of a topic that does not exist yet. -/
theorem within_fresh (t : Transport) (topic : String) :
    TopicLog.Within t.partitions t.nextSequence ⟨topic, List.replicate t.partitions .empty⟩ where
  length := List.length_replicate
  logs log hlog := by
    rw [List.eq_of_mem_replicate hlog]
    exact PartitionLog.within_empty _

namespace Contained

variable {t : Transport}

theorem publish (h : t.Contained) (topic key : String) (payload : Bytes) :
    (t.publish topic key payload).2.Contained := by
  cases hf : t.failing with
  | true =>
    rw [publish_of_failing hf]
    exact h
  | false =>
    rw [publish_of_working hf]
    exact forall_updateTopic h (fun _ hl => hl.mono (Nat.le_succ _)) (t.within_fresh topic)
      fun _ hl => hl.modify (Nat.le_succ _) (fun _ hlog => hlog.append rfl) _

theorem commit (h : t.Contained) (topic : String) (partition offset : Nat) :
    (t.commit topic partition offset).1.Contained := by
  rw [Transport.commit]
  split
  · intro l hl
    obtain ⟨l, hmem, rfl⟩ := List.mem_map.mp hl
    split
    · exact (h l hmem).modify (Nat.le_refl _) (fun _ hlog => hlog.commit offset) partition
    · exact h l hmem
  · exact h

/-- **An operation keeps a transport below its sequence.** -/
theorem apply (h : t.Contained) (op : Operation) : (t.apply op).Contained := by
  cases op with
  | publish topic key payload => exact h.publish topic key payload
  | commit topic partition offset => exact h.commit topic partition offset
  | read _ _ _ => exact h
  | setFailing _ => exact h

/-! ## 4. No step fails -/

theorem extended?_eq {log : PartitionLog} (h : log.Within t.nextSequence)
    (hlimit : t.nextSequence < wordLimit) (topic key : String) (payload : Bytes) :
    t.extended? topic key payload (t.partitionFor key) log =
      some (t.extended topic key payload log) := by
  rw [extended?, h.endOffset?_eq hlimit]
  rfl

/-- **Publishing fails in no step**: the partition of a key exists in every topic. -/
theorem publish?_eq (h : t.Contained) (hlimit : t.nextSequence + 1 < wordLimit)
    (topic key : String) (payload : Bytes) :
    t.publish? topic key payload = some (t.publish topic key payload) := by
  have hpartition : remainder? (sipHash (bytesOf key ++ [0xFF])).toNat t.partitions =
      some (t.partitionFor key) := remainder?_eq t.partitions_pos _
  have hlt : t.partitionFor key < t.partitions := partitionOf_lt t.partitions_pos key
  have hchange (l : TopicLog) (hl : l.Within t.partitions t.nextSequence) :
      changeAt? l.logs (t.partitionFor key)
          (t.extended? topic key payload (t.partitionFor key)) =
        some (l.logs.modify (t.partitionFor key) (t.extended topic key payload)) :=
    changeAt?_eq (hl.length ▸ hlt) fun log hlog =>
      extended?_eq (hl.logs log hlog) (Nat.lt_of_succ_lt hlimit) topic key payload
  have htopics : updateTopic? topic (List.replicate t.partitions .empty)
      (fun logs => changeAt? logs (t.partitionFor key)
        (t.extended? topic key payload (t.partitionFor key))) t.topics =
      some (updateTopic topic (List.replicate t.partitions .empty)
        (fun logs => logs.modify (t.partitionFor key) (t.extended topic key payload)) t.topics) :=
    updateTopic?_eq (hchange _ (t.within_fresh topic)) fun l hl => hchange l (h l hl)
  cases hf : t.failing with
  | true =>
    rw [publish_of_failing hf]
    simp only [publish?, hpartition, Option.bind_eq_bind, Option.bind_some, hf, if_true]
  | false =>
    rw [publish_of_working hf]
    simp only [publish?, hpartition, Option.bind_eq_bind, Option.bind_some, hf,
      Bool.false_eq_true, if_false, plus?_eq hlimit, htopics]

/-- A log that is found is one of the partitions, and below the sequence. -/
theorem lt_of_getElem?_logsOf (h : t.Contained) {topic : String} {partition : Nat}
    {log : PartitionLog} (hlog : (t.logsOf topic)[partition]? = some log) :
    partition < t.partitions ∧ log.Within t.nextSequence := by
  rw [logsOf] at hlog
  cases hfind : t.topics.find? fun l => l.name == topic with
  | none =>
    rw [hfind] at hlog
    cases hlog
  | some l =>
    rw [hfind] at hlog
    have hl := h l (List.mem_of_find?_eq_some hfind)
    obtain ⟨hlt, -⟩ := List.getElem?_eq_some_iff.mp hlog
    exact ⟨hl.length ▸ hlt, hl.logs log (List.mem_of_getElem? hlog)⟩

theorem released?_eq {l : TopicLog} {partitions limit partition : Nat}
    (h : l.Within partitions limit) (hlimit : limit < wordLimit) (topic : String)
    (hlt : partition < partitions) (offset : Nat) :
    released? topic partition offset l = some (if l.name = topic then
      { l with logs := l.logs.modify partition fun log => (log.commit offset).1 } else l) := by
  have hchange : (changeAt? l.logs partition fun log => (log.commit? offset).map Prod.fst) =
      some (l.logs.modify partition fun log => (log.commit offset).1) :=
    changeAt?_eq (h.length ▸ hlt) fun log hlog => by
      rw [(h.logs log hlog).commit?_eq hlimit, Option.map_some]
  rw [released?, hchange, Option.map_some]
  split <;> rfl

/-- **Committing fails in no step**, at whatever offset. -/
theorem commit?_eq (h : t.Contained) (hlimit : t.nextSequence < wordLimit) (topic : String)
    (partition offset : Nat) :
    t.commit? topic partition offset = some (t.commit topic partition offset) := by
  cases hlog : (t.logsOf topic)[partition]? with
  | none => simp only [commit?, Transport.commit, hlog]
  | some log =>
    obtain ⟨hlt, hwithin⟩ := h.lt_of_getElem?_logsOf hlog
    have htopics := mapM_eq_some fun l hl => released?_eq (h l hl) hlimit topic hlt offset
    simp only [commit?, Transport.commit, hlog, htopics, hwithin.commit?_eq hlimit,
      Option.bind_eq_bind, Option.bind_some]

/-- **An operation fails in no step**, if there is a number left for the record it may publish. -/
theorem applied?_eq (h : t.Contained) {op : Operation}
    (hlimit : t.nextSequence + (if op.isPublish then 1 else 0) < wordLimit) :
    t.applied? op = some (t.apply op) := by
  cases op with
  | publish topic key payload =>
    rw [applied?, h.publish?_eq hlimit, Option.map_some]
    rfl
  | commit topic partition offset =>
    rw [applied?, h.commit?_eq hlimit, Option.map_some]
    rfl
  | read _ _ _ => rfl
  | setFailing _ => rfl

end Contained

/-! ## 5. What is safe -/

theorem commit_frame (t : Transport) (topic : String) (partition offset : Nat) :
    (t.commit topic partition offset).1.partitions = t.partitions ∧
      (t.commit topic partition offset).1.nextSequence = t.nextSequence := by
  rw [commit]
  split <;> exact ⟨rfl, rfl⟩

/-- The number of partitions stays, and only a publication takes a number from the sequence. -/
theorem apply_frame (t : Transport) (op : Operation) :
    (t.apply op).partitions = t.partitions ∧ t.nextSequence ≤ (t.apply op).nextSequence ∧
      (t.apply op).nextSequence ≤ t.nextSequence + (if op.isPublish then 1 else 0) := by
  cases op with
  | publish topic key payload =>
    rw [apply]
    cases hf : t.failing with
    | true =>
      rw [publish_of_failing hf]
      exact ⟨rfl, Nat.le_refl _, Nat.le_succ _⟩
    | false =>
      rw [publish_of_working hf]
      exact ⟨rfl, Nat.le_succ _, Nat.le_refl _⟩
  | commit topic partition offset =>
    obtain ⟨hpartitions, hsequence⟩ := t.commit_frame topic partition offset
    exact ⟨hpartitions, Nat.le_of_eq hsequence.symm, Nat.le_of_eq hsequence⟩
  | read _ _ _ => exact ⟨rfl, Nat.le_refl _, Nat.le_refl _⟩
  | setFailing _ => exact ⟨rfl, Nat.le_refl _, Nat.le_refl _⟩

/-- What is read are no more records than the sequence counts, and they come before its end. -/
theorem Contained.read {t : Transport} (h : t.Contained) (topic : String) (partition offset : Nat) :
    (t.read topic partition offset).length ≤ t.nextSequence ∧
      ∀ r ∈ t.read topic partition offset, r.offset < t.nextSequence := by
  cases hlog : (t.logsOf topic)[partition]? with
  | none =>
    simp only [Transport.read, hlog]
    exact ⟨Nat.zero_le _, fun _ hr => absurd hr List.not_mem_nil⟩
  | some log =>
    obtain ⟨-, hwithin⟩ := h.lt_of_getElem?_logsOf hlog
    have hend : log.base + log.records.length ≤ t.nextSequence := hwithin.endOffset_le
    simp only [Transport.read, hlog, PartitionLog.readFrom]
    refine ⟨?_, fun r hr => ?_⟩
    · rw [List.length_drop]
      omega
    · exact Nat.lt_of_lt_of_le (hwithin.offset_lt r (List.mem_of_mem_drop hr)) hwithin.endOffset_le

/-- **Nothing overflows, and every index exists.** -/
structure Safe (t : Transport) : Prop where
  /-- Every key has a partition. -/
  partition : ∀ key, t.partitionFor key < t.partitions
  /-- Every topic has a log per partition. -/
  logs : ∀ l ∈ t.topics, l.logs.length = t.partitions
  /-- The log that a publication takes exists. -/
  index : ∀ l ∈ t.topics, ∀ key, t.partitionFor key < l.logs.length
  sequence : t.nextSequence < wordLimit
  ends : ∀ l ∈ t.topics, ∀ log ∈ l.logs, log.endOffset? = some log.endOffset
  /-- No commit takes more from an offset than it is, or more records than there are. -/
  commit : ∀ l ∈ t.topics, ∀ log ∈ l.logs, ∀ offset, log.commit? offset = some (log.commit offset)
  /-- A consumer can move past every record that is read. -/
  advance : ∀ topic partition offset, ∀ r ∈ t.read topic partition offset,
    plus? r.offset 1 = some (r.offset + 1)

/-- **A transport is safe while its sequence fits into a word.** -/
theorem Contained.safe {t : Transport} (h : t.Contained) (hlimit : t.nextSequence < wordLimit) :
    t.Safe where
  partition := partitionOf_lt t.partitions_pos
  logs l hl := (h l hl).length
  index l hl key := (h l hl).length ▸ partitionOf_lt t.partitions_pos key
  sequence := hlimit
  ends l hl log hlog := ((h l hl).logs log hlog).endOffset?_eq hlimit
  commit l hl log hlog := ((h l hl).logs log hlog).commit?_eq hlimit
  advance topic partition offset r hr :=
    plus?_eq (Nat.lt_of_le_of_lt ((h.read topic partition offset).2 r hr) hlimit)

end Transport

end Catalogue
