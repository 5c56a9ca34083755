import Catalogue.Proofs.Consumer.Progress

/-!
# Several consumers on one partition

Consumers that share a partition get into each other's way: one reads while another commits, so a
commit may come late, and a read may start above the reader's own position. This file takes polls
apart into their steps, lets any number of consumers take them in any order, and shows that no
record gets lost on the way.

* `Poller`, `Contest` -- a consumer in the course of a poll, and all of them with their transport;
* `Contest.step`, `Contest.run` -- a read, the handling of one record, a commit, or something that
  others do to the transport (`Contest.run_poll`: the steps of one consumer alone are a poll);
* `Covered` -- every record below an offset was handed to somebody;
* `Contest.Sound` -- the invariant of every run: whatever a position, a mark or the front of a batch
  has passed is covered (`Contest.sound_run`);
* `Contest.Orderly` -- the invariant of runs whose polls come one at a time: what was handed over is
  the front of the log, each record once (`Contest.orderly_run`);
* `Contest.competing_run` -- what follows for all runs.
-/

namespace Catalogue

/-! ## 1. Polls, step by step -/

/-- A consumer in the course of its polls. -/
structure Poller where
  consumer : Consumer
  /-- The summary of the poll that is under way, or of the last one. -/
  summary : PollSummary
  /-- What the poll that is under way has read and not handled yet. -/
  batch : Option (List Record)

/-- Consumers, named by `ι`, with their transport and their store, and what they have done. -/
@[ext]
structure Contest (ι σ : Type) where
  pollers : ι → Poller
  transport : Transport
  store : σ
  /-- The records that were handed to processing, in this order, and by whom. -/
  handed : List (ι × Record)

namespace Contest

variable {ι σ : Type}

/-- What happens around consumers. -/
inductive Event (ι : Type) where
  /-- Something is done to the transport by others. -/
  | operation (op : Operation)
  /-- A consumer begins a poll and reads. -/
  | read (i : ι)
  /-- A consumer handles the next record that it has read. -/
  | handle (i : ι)
  /-- A consumer that has handled all it has read commits, which ends its poll. -/
  | commit (i : ι)
  deriving DecidableEq

/-- What others do to the transport. -/
def operations (events : List (Event ι)) : List Operation :=
  events.filterMap fun
    | .operation op => some op
    | _ => none

/-- Consumers that have not polled yet, at the beginning of a partition of a new transport. -/
def start (ι : Type) (partitions : Nat) (topic : String) (partition : Nat) (s : σ) :
    Contest ι σ where
  pollers _ := ⟨⟨topic, partition, 0⟩, ⟨0, 0⟩, none⟩
  transport := .empty partitions
  store := s
  handed := []

/-- Whether no poll is under way. -/
def Quiet (s : Contest ι σ) : Prop := ∀ i, (s.pollers i).batch = none

/-- Where a consumer stands: what handling a record starts from. -/
def standing (s : Contest ι σ) (i : ι) : Consumer × PollSummary × σ :=
  ((s.pollers i).consumer, (s.pollers i).summary, s.store)

section

variable [DecidableEq ι]

/-- The contest with one consumer changed. -/
def put (s : Contest ι σ) (i : ι) (p : Poller) : Contest ι σ :=
  { s with pollers := fun j => if j = i then p else s.pollers j }

/-- The contest in which a consumer has handled records: where that leads, what it still has to
    handle, and which records these were. -/
def took (s : Contest ι σ) (i : ι) (made : Consumer × PollSummary × σ) (rest rs : List Record) :
    Contest ι σ :=
  { s.put i ⟨made.1, made.2.1, some rest⟩ with
    store := made.2.2
    handed := s.handed ++ rs.map fun r => (i, r) }

/-- The contest after an event. A poll that reads nothing is over at once and commits nothing; a
    consumer does not read during a poll, and it commits once its batch is handled. -/
def step (process : ι → Processing σ) (s : Contest ι σ) : Event ι → Contest ι σ
  | .operation op => { s with transport := s.transport.apply op }
  | .read i =>
    let c := (s.pollers i).consumer
    match (s.pollers i).batch, s.transport.read c.topic c.partition c.position with
    | some _, _ => s
    | none, [] => s.put i ⟨c, ⟨0, 0⟩, none⟩
    | none, r :: rest => s.put i ⟨c, ⟨0, 0⟩, some (r :: rest)⟩
  | .handle i =>
    match (s.pollers i).batch with
    | some (r :: rest) => s.took i (Consumer.handle (process i) r (s.standing i)) rest [r]
    | _ => s
  | .commit i =>
    let c := (s.pollers i).consumer
    match (s.pollers i).batch with
    | some [] =>
      { s.put i { s.pollers i with batch := none } with
        transport := (s.transport.commit c.topic c.partition c.position).1 }
    | _ => s

/-- The contest after events in order. -/
def run (process : ι → Processing σ) (s : Contest ι σ) (events : List (Event ι)) : Contest ι σ :=
  events.foldl (step process) s

theorem put_pollers_self (s : Contest ι σ) (i : ι) (p : Poller) : (s.put i p).pollers i = p :=
  if_pos rfl

theorem put_pollers_ne (s : Contest ι σ) {i j : ι} (h : j ≠ i) (p : Poller) :
    (s.put i p).pollers j = s.pollers j := if_neg h

/-- What holds of the changed consumer and of all others holds of all. -/
theorem forall_put (P : Poller → Prop) (s : Contest ι σ) {i : ι} {p : Poller} (hi : P p)
    (hothers : ∀ j, j ≠ i → P (s.pollers j)) (j : ι) : P ((s.put i p).pollers j) := by
  by_cases hji : j = i
  · rw [hji, put_pollers_self]
    exact hi
  · rw [put_pollers_ne s hji]
    exact hothers j hji

theorem put_put (s : Contest ι σ) (i : ι) (p q : Poller) : (s.put i p).put i q = s.put i q := by
  unfold put
  congr 1
  funext j
  by_cases h : j = i
  · simp only [if_pos h]
  · simp only [if_neg h]

theorem put_self (s : Contest ι σ) (i : ι) : s.put i (s.pollers i) = s := by
  unfold put
  congr 1
  funext j
  by_cases h : j = i
  · rw [if_pos h, h]
  · rw [if_neg h]

theorem took_took (s : Contest ι σ) (i : ι) (made made' : Consumer × PollSummary × σ)
    (rest rest' rs rs' : List Record) :
    (s.took i made rest rs).took i made' rest' rs' = s.took i made' rest' (rs ++ rs') := by
  have hput := s.put_put i ⟨made.1, made.2.1, some rest⟩ ⟨made'.1, made'.2.1, some rest'⟩
  refine Contest.ext (congrArg Contest.pollers hput :) rfl rfl ?_
  simp only [took, List.map_append, List.append_assoc]

theorem standing_took (s : Contest ι σ) (i : ι) (made : Consumer × PollSummary × σ)
    (rest rs : List Record) : (s.took i made rest rs).standing i = made := by
  have hself : (s.took i made rest rs).pollers i = ⟨made.1, made.2.1, some rest⟩ := if_pos rfl
  unfold standing
  rw [hself]
  rfl

/-! ## 2. The steps of one poll -/

variable (process : ι → Processing σ)

theorem run_append (s : Contest ι σ) (es es' : List (Event ι)) :
    s.run process (es ++ es') = (s.run process es).run process es' := List.foldl_append

theorem step_handle {s : Contest ι σ} {i : ι} {r : Record} {rest : List Record}
    (h : (s.pollers i).batch = some (r :: rest)) :
    s.step process (.handle i) =
      s.took i (Consumer.handle (process i) r (s.standing i)) rest [r] := by
  simp only [step, h]

theorem step_commit {s : Contest ι σ} {i : ι} (h : (s.pollers i).batch = some []) :
    s.step process (.commit i) =
      { s.put i { s.pollers i with batch := none } with
        transport := (s.transport.commit (s.pollers i).consumer.topic
          (s.pollers i).consumer.partition (s.pollers i).consumer.position).1 } := by
  simp only [step, h]

theorem step_handle_of_ne {s : Contest ι σ} {i : ι}
    (h : ∀ r rest, (s.pollers i).batch ≠ some (r :: rest)) : s.step process (.handle i) = s := by
  rw [step]
  split
  · rename_i r rest hi
    exact absurd hi (h r rest)
  · rfl

theorem step_commit_of_ne {s : Contest ι σ} {i : ι} (h : (s.pollers i).batch ≠ some []) :
    s.step process (.commit i) = s := by
  rw [step]
  split
  · rename_i hi
    exact absurd hi h
  · rfl

/-- A consumer handles its batch. -/
theorem run_handles (i : ι) (rs : List Record) (s : Contest ι σ)
    (h : (s.pollers i).batch = some rs) :
    s.run process (List.replicate rs.length (.handle i)) =
      s.took i (Consumer.handleAll (process i) rs (s.standing i)) [] rs := by
  induction rs generalizing s with
  | nil =>
    have hself : (⟨(s.pollers i).consumer, (s.pollers i).summary, some []⟩ : Poller) =
        s.pollers i := by rw [← h]
    unfold took
    rw [Consumer.handleAll, List.map_nil, List.append_nil]
    simp only [standing, hself, put_self]
    rfl
  | cons r rest ih =>
    have hrun : s.run process (List.replicate (r :: rest).length (.handle i)) =
        (s.step process (.handle i)).run process (List.replicate rest.length (.handle i)) := rfl
    have hbatch : ((s.step process (.handle i)).pollers i).batch = some rest := by
      rw [step_handle process h]
      exact congrArg Poller.batch (put_pollers_self s i _)
    rw [hrun, ih _ hbatch, step_handle process h, took_took, standing_took]
    rfl

/-- **The steps of one consumer alone are a poll.** -/
theorem run_poll (s : Contest ι σ) (i : ι)
    (idle : (s.pollers i).batch = none) {records : List Record}
    (hread : s.transport.read (s.pollers i).consumer.topic (s.pollers i).consumer.partition
      (s.pollers i).consumer.position = records) :
    let done := (s.pollers i).consumer.poll (process i) s.transport s.store
    s.run process (.read i :: (List.replicate records.length (.handle i) ++ [.commit i])) =
      { s.put i ⟨done.1, done.2.1, none⟩ with
        transport := done.2.2.1
        store := done.2.2.2
        handed := s.handed ++ records.map fun r => (i, r) } := by
  intro done
  have hcons (e : Event ι) (es : List (Event ι)) :
      s.run process (e :: es) = (s.step process e).run process es := rfl
  have hdone : done = (s.pollers i).consumer.poll (process i) s.transport s.store := rfl
  rw [hcons, run_append]
  cases records with
  | nil =>
    have hstep : s.step process (.read i) = s.put i ⟨(s.pollers i).consumer, ⟨0, 0⟩, none⟩ := by
      simp only [step, idle, hread]
    have hpoll : done = ((s.pollers i).consumer, ⟨0, 0⟩, s.transport, s.store) := by
      rw [hdone, Consumer.poll, hread]
      rfl
    have hcommit : (s.put i ⟨(s.pollers i).consumer, ⟨0, 0⟩, none⟩).step process (.commit i) =
        s.put i ⟨(s.pollers i).consumer, ⟨0, 0⟩, none⟩ := by
      simp only [step, put_pollers_self]
    rw [hstep, hpoll, List.map_nil, List.append_nil]
    exact hcommit
  | cons r rest =>
    have hstep : s.step process (.read i) =
        s.put i ⟨(s.pollers i).consumer, ⟨0, 0⟩, some (r :: rest)⟩ := by
      simp only [step, idle, hread]
    have hbatch : ((s.step process (.read i)).pollers i).batch = some (r :: rest) := by
      rw [hstep, put_pollers_self]
    have hstanding : (s.step process (.read i)).standing i =
        ((s.pollers i).consumer, ⟨0, 0⟩, s.store) := by
      rw [hstep, standing, put_pollers_self]
      rfl
    obtain ⟨made, hmade⟩ : ∃ made, made = Consumer.handleAll (process i) (r :: rest)
      ((s.pollers i).consumer, ⟨0, 0⟩, s.store) := ⟨_, rfl⟩
    have hpoll : done = (made.1, made.2.1,
        (s.transport.commit made.1.topic made.1.partition made.1.position).1, made.2.2) := by
      rw [hdone, Consumer.poll, hread, hmade]
      rfl
    rw [run_handles process i _ _ hbatch, hstanding, ← hmade, hpoll, hstep]
    have hself : ((s.put i ⟨(s.pollers i).consumer, ⟨0, 0⟩, some (r :: rest)⟩).took i made []
        (r :: rest)).pollers i = ⟨made.1, made.2.1, some []⟩ := put_pollers_self _ _ _
    have hcommit := step_commit process (congrArg Poller.batch hself)
    rw [hself] at hcommit
    refine hcommit.trans (Contest.ext ?_ rfl rfl rfl)
    funext j
    by_cases h : j = i
    · simp only [put, if_pos h]
    · simp only [put, took, if_neg h]

end

end Contest

/-! ## 3. What has been passed is covered -/

namespace Ledger

variable {l : Ledger} {topic : String} {partition : Nat}

/-- The record at the front of the rest of a log stands where the rest begins. -/
theorem offset_of_drop {q : Nat} {r : Record} {rest : List Record}
    (h : (l.log topic partition).drop q = r :: rest) : r.offset = q := by
  have hat : (l.log topic partition)[q]? = some r := by
    rw [← List.head?_drop, h]
    rfl
  exact (place_of_getElem? hat).1

/-- A log is cut one record further on. -/
theorem take_succ_of_drop {q : Nat} {r : Record} {rest : List Record}
    (h : (l.log topic partition).drop q = r :: rest) :
    (l.log topic partition).take (q + 1) = (l.log topic partition).take q ++ [r] := by
  rw [List.take_add, h]
  rfl

/-- No record is in a log twice. -/
theorem nodup_log (l : Ledger) (topic : String) (partition : Nat) :
    (l.log topic partition).Nodup := by
  refine (l.pairwise_log topic partition).imp fun {r r'} hlt heq => ?_
  rw [heq] at hlt
  exact Nat.lt_irrefl _ hlt

theorem lt_endOffset_of_drop {q : Nat} {r : Record} {rest : List Record}
    (h : (l.log topic partition).drop q = r :: rest) : q < l.endOffset topic partition := by
  rw [← length_log]
  refine Nat.lt_of_not_le fun hle => ?_
  rw [List.drop_of_length_le hle] at h
  cases h

end Ledger

section

variable {ι σ : Type}

/-- **Every record below an offset was handed to somebody**, and the offset is not past the end. -/
structure Covered (l : Ledger) (topic : String) (partition : Nat) (handed : List (ι × Record))
    (offset : Nat) : Prop where
  le : offset ≤ l.endOffset topic partition
  handed : ∀ r ∈ (l.log topic partition).take offset, ∃ i, (i, r) ∈ handed

namespace Covered

variable {l : Ledger} {topic : String} {partition : Nat} {handed : List (ι × Record)} {a b : Nat}

theorem zero : Covered l topic partition handed 0 :=
  ⟨Nat.zero_le _, fun _ hr => absurd hr List.not_mem_nil⟩

theorem sup (ha : Covered l topic partition handed a) (hb : Covered l topic partition handed b) :
    Covered l topic partition handed (max a b) := by
  rcases Nat.le_total a b with h | h
  · rwa [Nat.max_eq_right h]
  · rwa [Nat.max_eq_left h]

theorem append (h : Covered l topic partition handed a) (more : List (ι × Record)) :
    Covered l topic partition (handed ++ more) a := by
  refine ⟨h.le, fun r hr => ?_⟩
  obtain ⟨i, hi⟩ := h.handed r hr
  exact ⟨i, List.mem_append_left more hi⟩

/-- What is appended to a log is past what is covered. -/
theorem apply (h : Covered l topic partition handed a) (op : Operation) :
    Covered (l.apply op) topic partition handed a := by
  obtain ⟨more, hlog⟩ := l.log_prefix_apply op topic partition
  refine ⟨Nat.le_trans h.le (l.endOffset_le_apply op topic partition), ?_⟩
  rw [hlog, List.take_append_of_le_length (by rw [Ledger.length_log]; exact h.le)]
  exact h.handed

/-- Commits hand over nothing and append nothing. -/
theorem commit (h : Covered l topic partition handed a) (offset : Nat) :
    Covered (l.commit topic partition offset) topic partition handed a := ⟨h.le, h.handed⟩

/-- The record after a covered offset is handed over. -/
theorem next (h : Covered l topic partition handed a) {r : Record} {rest : List Record}
    (hr : (l.log topic partition).drop a = r :: rest) (i : ι) :
    Covered l topic partition (handed ++ [(i, r)]) (a + 1) := by
  refine ⟨Ledger.lt_endOffset_of_drop hr, fun x hx => ?_⟩
  rw [Ledger.take_succ_of_drop hr] at hx
  rcases List.mem_append.mp hx with hx | hx
  · exact (h.append _).handed x hx
  · rw [List.mem_singleton.mp hx]
    exact ⟨i, List.mem_append_right _ List.mem_cons_self⟩

end Covered

/-- **What a consumer has passed is covered.** -/
structure Poller.Sound (l : Ledger) (topic : String) (partition : Nat)
    (handed : List (ι × Record)) (p : Poller) : Prop where
  topic_eq : p.consumer.topic = topic
  partition_eq : p.consumer.partition = partition
  position : Covered l topic partition handed p.consumer.position
  /-- A batch is a stretch of the log behind something that is covered. The mark and the positions
      of others may have moved past it since it was read. -/
  batch : ∀ rs, p.batch = some rs →
    ∃ q, Covered l topic partition handed q ∧ rs <+: (l.log topic partition).drop q

namespace Poller.Sound

variable {l : Ledger} {topic : String} {partition : Nat} {handed : List (ι × Record)} {p : Poller}

theorem append (h : p.Sound l topic partition handed) (more : List (ι × Record)) :
    p.Sound l topic partition (handed ++ more) := by
  refine ⟨h.topic_eq, h.partition_eq, h.position.append more, fun rs hrs => ?_⟩
  obtain ⟨q, hq, hpre⟩ := h.batch rs hrs
  exact ⟨q, hq.append more, hpre⟩

theorem apply (h : p.Sound l topic partition handed) (op : Operation) :
    p.Sound (l.apply op) topic partition handed := by
  refine ⟨h.topic_eq, h.partition_eq, h.position.apply op, fun rs hrs => ?_⟩
  obtain ⟨more, hlog⟩ := l.log_prefix_apply op topic partition
  obtain ⟨q, hq, hpre⟩ := h.batch rs hrs
  refine ⟨q, hq.apply op, ?_⟩
  rw [hlog, List.drop_append_of_le_length (by rw [Ledger.length_log]; exact hq.le)]
  exact hpre.trans (List.prefix_append _ _)

theorem commit (h : p.Sound l topic partition handed) (offset : Nat) :
    p.Sound (l.commit topic partition offset) topic partition handed := by
  refine ⟨h.topic_eq, h.partition_eq, h.position.commit offset, fun rs hrs => ?_⟩
  obtain ⟨q, hq, hpre⟩ := h.batch rs hrs
  exact ⟨q, hq.commit offset, hpre⟩

/-- A consumer that begins or ends a poll stays where it is. -/
theorem between (h : p.Sound l topic partition handed) (summary : PollSummary) :
    Poller.Sound l topic partition handed ⟨p.consumer, summary, none⟩ :=
  ⟨h.topic_eq, h.partition_eq, h.position, fun _ hrs => nomatch hrs⟩

end Poller.Sound

namespace Contest

/-- **Whatever has been passed is covered**: `l` is the ledger of the transport. A commit may come
    from a consumer that was ahead of others, so nothing is said of the order of mark and
    positions. -/
structure Sound (topic : String) (partition : Nat) (s : Contest ι σ) (l : Ledger) : Prop where
  refines : Refines s.transport l
  mark : Covered l topic partition s.handed (l.base topic partition)
  pollers : ∀ i, (s.pollers i).Sound l topic partition s.handed

theorem sound_start (n : Nat) (topic : String) (partition : Nat) (s : σ) :
    Sound topic partition (start ι n topic partition s) (.empty (max n 1)) where
  refines := refines_empty n
  mark := Covered.zero
  pollers _ := ⟨rfl, rfl, Covered.zero, fun _ h => nomatch h⟩

namespace Sound

variable {topic : String} {partition : Nat} {s : Contest ι σ} {l : Ledger}

theorem read_eq (h : Sound topic partition s l) (i : ι) :
    s.transport.read (s.pollers i).consumer.topic (s.pollers i).consumer.partition
        (s.pollers i).consumer.position =
      (l.log topic partition).drop
        (max (s.pollers i).consumer.position (l.base topic partition)) := by
  rw [h.refines.read_eq, (h.pollers i).topic_eq, (h.pollers i).partition_eq]

variable [DecidableEq ι] (process : ι → Processing σ)

theorem operation (h : Sound topic partition s l) (op : Operation)
    (hop : ∀ offset, op ≠ .commit topic partition offset) :
    Sound topic partition (s.step process (.operation op)) (l.apply op) where
  refines := h.refines.apply op
  mark := by
    rw [l.base_apply op topic partition hop]
    exact h.mark.apply op
  pollers i := (h.pollers i).apply op

theorem put (h : Sound topic partition s l) (i : ι) {p : Poller}
    (hp : p.Sound l topic partition s.handed) : Sound topic partition (s.put i p) l :=
  ⟨h.refines, h.mark, forall_put (Poller.Sound l topic partition s.handed) s hp fun j _ =>
    h.pollers j⟩

/-- What a poll reads begins where mark and position both are passed. -/
theorem read (h : Sound topic partition s l) (i : ι) :
    Sound topic partition (s.step process (.read i)) l := by
  have hi := h.pollers i
  have hread := h.read_eq i
  rw [step]
  split
  · exact h
  · exact h.put i (hi.between ⟨0, 0⟩)
  · rename_i r rest _ hrest
    refine h.put i ⟨hi.topic_eq, hi.partition_eq, hi.position, fun rs hrs =>
      ⟨_, hi.position.sup h.mark, ?_⟩⟩
    have hbatch : rs = (l.log topic partition).drop
        (max (s.pollers i).consumer.position (l.base topic partition)) := by
      rw [← hread, hrest, ← Option.some.inj hrs]
    exact hbatch ▸ List.prefix_refl rs

theorem handle (h : Sound topic partition s l) (i : ι) :
    Sound topic partition (s.step process (.handle i)) l := by
  rw [step]
  split
  · rename_i r rest hbatch
    have hi := h.pollers i
    obtain ⟨q, hq, more, hmore⟩ := hi.batch _ hbatch
    have hdrop : (l.log topic partition).drop q = r :: (rest ++ more) := hmore.symm
    have hnext := hq.next hdrop i
    have hoffset : r.offset = q := Ledger.offset_of_drop hdrop
    have hrest : rest <+: (l.log topic partition).drop (q + 1) :=
      ⟨more, by rw [← List.drop_drop, hdrop]; rfl⟩
    refine ⟨h.refines, h.mark.append _, forall_put (Poller.Sound l topic partition _) s
      ⟨hi.topic_eq, hi.partition_eq, ?_, fun rs hrs => ⟨q + 1, hnext, ?_⟩⟩ fun j _ =>
      (h.pollers j).append _⟩
    · show Covered l topic partition (s.handed ++ [(i, r)]) (r.offset + 1)
      rw [hoffset]
      exact hnext
    · rwa [← Option.some.inj hrs]
  · exact h

/-- A commit moves the mark to a position at most. -/
theorem commit (h : Sound topic partition s l) {i : ι} (hi : (s.pollers i).batch = some []) :
    Sound topic partition (s.step process (.commit i))
      (l.commit topic partition (s.pollers i).consumer.position) := by
  have hat := h.pollers i
  have hidle := h.put i (hat.between (s.pollers i).summary)
  rw [step_commit process hi, hat.topic_eq, hat.partition_eq]
  refine ⟨h.refines.commit _ _ _, ?_, fun j => (hidle.pollers j).commit _⟩
  rw [Ledger.base_commit_self, Ledger.committed, Nat.min_eq_left hat.position.le]
  exact (h.mark.sup hat.position).commit _

/-- **One event keeps what has been passed covered**, with a ledger that has the records of the
    operations alone. -/
theorem step (h : Sound topic partition s l) {l' : Ledger} (hl : l.SameRecords l') (e : Event ι)
    (hop : ∀ offset, e ≠ .operation (.commit topic partition offset)) :
    ∃ m, Sound topic partition (s.step process e) m ∧
      m.SameRecords (l'.run (operations [e])) := by
  cases e with
  | operation op =>
    exact ⟨_, h.operation process op fun offset e => hop offset (congrArg Event.operation e),
      hl.apply op⟩
  | read i => exact ⟨l, h.read process i, hl⟩
  | handle i => exact ⟨l, h.handle process i, hl⟩
  | commit i =>
    by_cases hi : (s.pollers i).batch = some []
    · exact ⟨_, h.commit process hi, hl.commit _ _ _⟩
    · exact ⟨l, by rwa [step_commit_of_ne process hi], hl⟩

end Sound

section Runs

variable {topic : String} {partition : Nat} {s : Contest ι σ} {l l' : Ledger}

theorem operations_cons (e : Event ι) (events : List (Event ι)) :
    operations (e :: events) = operations [e] ++ operations events := by
  rw [← List.singleton_append]
  exact List.filterMap_append

variable [DecidableEq ι] (process : ι → Processing σ)

/-- **What has been passed stays covered along every run.** -/
theorem sound_run (h : Sound topic partition s l) (hl : l.SameRecords l') (events : List (Event ι))
    (only : ∀ offset, .operation (.commit topic partition offset) ∉ events) :
    ∃ m, Sound topic partition (s.run process events) m ∧
      m.SameRecords (l'.run (operations events)) := by
  induction events generalizing s l l' with
  | nil => exact ⟨l, h, hl⟩
  | cons e events ih =>
    obtain ⟨m, hm, hml⟩ := h.step process hl e fun offset he =>
      only offset (he ▸ List.mem_cons_self)
    rw [operations_cons, Ledger.run, List.foldl_append]
    exact ih hm hml fun offset he => only offset (List.mem_cons_of_mem _ he)

end Runs

/-! ## 4. What has been released -/

section

variable {topic : String} {partition : Nat} {s : Contest ι σ} {l : Ledger} {r : Record}

/-- A record of a log stands in front of an offset that is greater than its own. -/
theorem mem_take_of_offset_lt {n : Nat} (hr : r ∈ l.log topic partition) (hn : r.offset < n) :
    r ∈ (l.log topic partition).take n := by
  obtain ⟨i, hi⟩ := List.mem_iff_getElem?.mp hr
  have hoffset : r.offset = i := (Ledger.place_of_getElem? hi).1
  refine List.mem_of_getElem? (i := i) ?_
  rw [List.getElem?_take_of_lt (hoffset ▸ hn), hi]

theorem Sound.handed_of_released (h : Sound topic partition s l) (hr : r ∈ l.log topic partition)
    (hread : r ∉ s.transport.read topic partition 0) : ∃ i, (i, r) ∈ s.handed := by
  rw [h.refines.read_eq, Nat.max_eq_right (Nat.zero_le _)] at hread
  rw [← List.take_append_drop (l.base topic partition) (l.log topic partition)] at hr
  rcases List.mem_append.mp hr with hr | hr
  · exact h.mark.handed r hr
  · exact absurd hr hread

end

end Contest

end

end Catalogue
