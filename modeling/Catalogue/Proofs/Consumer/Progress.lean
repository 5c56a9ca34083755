import Catalogue.Proofs.Consumer.Poll

/-!
# One consumer, alone on its partition

Three numbers describe how far a consumer is: its position, the mark of its partition and the end of
its log. This file keeps them aligned, whatever is published between its polls and whatever becomes
of the records.

* `Feed` -- a consumer with its transport and its store, and what its polls have done so far;
* `Feed.step`, `Feed.run` -- something is done to the transport, or the consumer polls;
* `Feed.Tracks` -- the invariant: before the first record the consumer stands where it started and
  the mark where it was; after that the mark is the position (`Feed.tracks_run`);
* `Feed.ExactlyOnce` -- what follows from it; `Feed.exactlyOnce_run` -- for every run.
-/

namespace Catalogue

/-! ## 1. Ledgers with the same records -/

/-- Two ledgers that differ in their marks at most. -/
structure Ledger.SameRecords (l l' : Ledger) : Prop where
  partitions : l.partitions = l'.partitions
  accepted : l.accepted = l'.accepted
  failing : l.failing = l'.failing

namespace Ledger.SameRecords

variable {l l' : Ledger}

theorem refl (l : Ledger) : SameRecords l l := ⟨rfl, rfl, rfl⟩

theorem log_eq (h : SameRecords l l') (topic : String) (partition : Nat) :
    l.log topic partition = l'.log topic partition := by
  unfold log appended
  rw [h.partitions, h.accepted]

theorem apply (h : SameRecords l l') (op : Operation) : SameRecords (l.apply op) (l'.apply op) := by
  cases op with
  | publish topic key payload =>
    simp only [Ledger.apply, h.failing]
    split
    · exact h
    · exact ⟨h.partitions, by simp only [publish, h.accepted], h.failing⟩
  | commit _ _ _ => exact ⟨h.partitions, h.accepted, h.failing⟩
  | read _ _ _ => exact h
  | setFailing _ => exact ⟨h.partitions, h.accepted, rfl⟩

theorem commit (h : SameRecords l l') (topic : String) (partition offset : Nat) :
    SameRecords (l.commit topic partition offset) l' :=
  ⟨h.partitions, h.accepted, h.failing⟩

end Ledger.SameRecords

/-! ## 2. Runs -/

/-- A consumer with its transport and its store, and what its polls have done so far. -/
structure Feed (σ : Type) where
  consumer : Consumer
  transport : Transport
  store : σ
  /-- The records that its polls have read and handed to processing, in this order. -/
  taken : List Record
  /-- The sum of the summaries of its polls. -/
  summary : PollSummary

namespace Feed

variable {σ : Type}

/-- What happens around a consumer. -/
inductive Event where
  /-- Something is done to the transport. -/
  | operation (op : Operation)
  /-- The consumer polls. -/
  | poll
  deriving DecidableEq

/-- A consumer that has not polled yet. -/
def start (c : Consumer) (t : Transport) (s : σ) : Feed σ := ⟨c, t, s, [], ⟨0, 0⟩⟩

/-- The records that the next poll reads. -/
def readable (f : Feed σ) : List Record :=
  f.transport.read f.consumer.topic f.consumer.partition f.consumer.position

/-- The feed after an event. -/
def step (process : Processing σ) (f : Feed σ) : Event → Feed σ
  | .operation op => { f with transport := f.transport.apply op }
  | .poll =>
    let (consumer, summary, transport, store) := f.consumer.poll process f.transport f.store
    ⟨consumer, transport, store, f.taken ++ f.readable, f.summary.add summary⟩

/-- The feed after events in order. -/
def run (process : Processing σ) (f : Feed σ) (events : List Event) : Feed σ :=
  events.foldl (step process) f

/-- What is done to the transport apart from polls. -/
def operations (events : List Event) : List Operation :=
  events.filterMap fun
    | .operation op => some op
    | .poll => none

/-- An event that commits nothing on a partition. -/
def Event.Spares (topic : String) (partition : Nat) (e : Event) : Prop :=
  ∀ offset, e ≠ .operation (.commit topic partition offset)

/-! ## 3. The invariant -/

/-- **How far a consumer is**: `origin` is where it started, `base` the mark of its partition then,
    and `s₀` the store then. -/
structure Tracks (process : Processing σ) (origin : Consumer) (base : Nat) (s₀ : σ) (f : Feed σ)
    (l : Ledger) : Prop where
  refines : Refines f.transport l
  topic : f.consumer.topic = origin.topic
  partition : f.consumer.partition = origin.partition
  store : f.store = replay process f.taken s₀
  summary : f.summary = tally process f.taken s₀
  place : (f.consumer.position = origin.position ∧ l.base origin.topic origin.partition = base ∧
      f.taken = []) ∨
    (max origin.position base < f.consumer.position ∧
      f.consumer.position ≤ l.endOffset origin.topic origin.partition ∧
      l.base origin.topic origin.partition = f.consumer.position ∧
      f.taken = ((l.log origin.topic origin.partition).take f.consumer.position).drop
        (max origin.position base))

namespace Tracks

variable {process : Processing σ} {origin : Consumer} {base : Nat} {s₀ : σ} {f : Feed σ}
  {l : Ledger}

theorem due_eq (h : Tracks process origin base s₀ f l) :
    f.consumer.due l = (l.log origin.topic origin.partition).drop
      (max f.consumer.position (l.base origin.topic origin.partition)) := by
  rw [Consumer.due, h.topic, h.partition]

theorem readable_eq (h : Tracks process origin base s₀ f l) : f.readable = f.consumer.due l :=
  h.refines.read_eq _ _ _

/-- In both phases the next records are those from the greater of position and mark on. -/
theorem taken_append_due (h : Tracks process origin base s₀ f l) :
    f.taken ++ f.consumer.due l =
      (l.log origin.topic origin.partition).drop (max origin.position base) := by
  rw [h.due_eq]
  -- before the first record nothing was taken; after it position and mark are one number
  rcases h.place with ⟨hp, hb, ht⟩ | ⟨hlt, hle, hb, ht⟩
  · rw [ht, hp, hb, List.nil_append]
  · have hlen : max origin.position base ≤
        ((l.log origin.topic origin.partition).take f.consumer.position).length := by
      rw [List.length_take, Ledger.length_log]
      omega
    rw [ht, hb, Nat.max_self, ← List.drop_append_of_le_length hlen, List.take_append_drop]

theorem operation (h : Tracks process origin base s₀ f l) (op : Operation)
    (hop : ∀ offset, op ≠ .commit origin.topic origin.partition offset) :
    Tracks process origin base s₀ (f.step process (.operation op)) (l.apply op) := by
  refine ⟨h.refines.apply op, h.topic, h.partition, h.store, h.summary, ?_⟩
  obtain ⟨more, hlog⟩ := l.log_prefix_apply op origin.topic origin.partition
  have hend := l.endOffset_le_apply op origin.topic origin.partition
  rw [l.base_apply op _ _ hop, hlog]
  rcases h.place with hwait | ⟨hlt, hle, hb, ht⟩
  · exact Or.inl hwait
  · refine Or.inr ⟨hlt, Nat.le_trans hle hend, hb, ?_⟩
    simp only [step]
    rw [List.take_append_of_le_length (by rwa [Ledger.length_log])]
    exact ht

/-- A poll that finds nothing changes nothing. -/
theorem step_poll_of_nil (h : Tracks process origin base s₀ f l) (hdue : f.consumer.due l = []) :
    f.step process .poll = f := by
  have hpoll := Consumer.poll_of_refines h.refines process f.consumer f.store
  rw [if_pos hdue] at hpoll
  simp [step, hpoll, h.readable_eq, hdue, PollSummary.add]

/-- A poll that finds something moves position and mark to the end. -/
theorem step_poll_of_ne_nil (h : Tracks process origin base s₀ f l)
    (hdue : f.consumer.due l ≠ []) :
    (f.step process .poll).consumer.position = l.endOffset origin.topic origin.partition ∧
    Tracks process origin base s₀ (f.step process .poll)
      (l.commit origin.topic origin.partition (l.endOffset origin.topic origin.partition)) := by
  have hpoll := Consumer.poll_of_refines h.refines process f.consumer f.store
  rw [if_neg hdue, h.topic, h.partition] at hpoll
  have hstep : f.step process .poll =
      ⟨⟨origin.topic, origin.partition, l.endOffset origin.topic origin.partition⟩,
        (f.transport.commit origin.topic origin.partition
          (l.endOffset origin.topic origin.partition)).1,
        replay process (f.consumer.due l) f.store, f.taken ++ f.consumer.due l,
        f.summary.add (tally process (f.consumer.due l) f.store)⟩ := by
    simp only [step, hpoll, h.readable_eq]
  have hle := h.refines.bounded origin.topic origin.partition
  have hgt : max f.consumer.position (l.base origin.topic origin.partition) <
      l.endOffset origin.topic origin.partition := by
    have hne := mt (f.consumer.due_eq_nil_iff l).mpr hdue
    rw [h.topic, h.partition] at hne
    omega
  refine ⟨by rw [hstep], ?_⟩
  rw [hstep]
  refine ⟨h.refines.commit _ _ _, rfl, rfl, ?_, ?_, Or.inr ⟨?_, ?_, ?_, ?_⟩⟩
  · rw [replay_append, h.store]
  · rw [tally_append, h.summary, h.store]
  · rcases h.place with ⟨hp, hb, -⟩ | ⟨hlt, -, -, -⟩
    · rw [← hp, ← hb]
      exact hgt
    · exact Nat.lt_trans hlt (Nat.lt_of_le_of_lt (Nat.le_max_left _ _) hgt)
  · exact Nat.le_refl _
  · rw [Ledger.base_commit_self, Ledger.committed, Nat.min_self, Nat.max_eq_right hle]
  · simp only [h.taken_append_due, Ledger.log_commit]
    rw [List.take_of_length_le (Nat.le_of_eq (l.length_log _ _))]

end Tracks

theorem tracks_start (process : Processing σ) {t : Transport} {l : Ledger} (h : Refines t l)
    (c : Consumer) (s : σ) :
    Tracks process c (l.base c.topic c.partition) s (start c t s) l where
  refines := h
  topic := rfl
  partition := rfl
  store := rfl
  summary := rfl
  place := Or.inl ⟨rfl, rfl, rfl⟩

/-- **The invariant holds along every run**, with a ledger that has the records of the operations
    alone: what the consumer commits moves marks only. -/
theorem tracks_run {process : Processing σ} {origin : Consumer} {base : Nat} {s₀ : σ} {f : Feed σ}
    {l l' : Ledger} (h : Tracks process origin base s₀ f l) (hl : l.SameRecords l')
    (events : List Event) (only : ∀ e ∈ events, e.Spares origin.topic origin.partition) :
    ∃ m, Tracks process origin base s₀ (f.run process events) m ∧
      m.SameRecords (l'.run (operations events)) := by
  induction events generalizing f l l' with
  | nil => exact ⟨l, h, hl⟩
  | cons e events ih =>
    have only' := fun e' he' => only e' (List.mem_cons_of_mem _ he')
    cases e with
    | operation op =>
      have hop : ∀ offset, op ≠ .commit origin.topic origin.partition offset :=
        fun offset e => only _ List.mem_cons_self offset (congrArg Event.operation e)
      exact ih (h.operation op hop) (hl.apply op) only'
    | poll =>
      by_cases hdue : f.consumer.due l = []
      · have hsame : f.run process (.poll :: events) = f.run process events :=
          congrArg (fun g => run process g events) (h.step_poll_of_nil hdue)
        rw [hsame]
        exact ih h hl only'
      · exact ih (h.step_poll_of_ne_nil hdue).2 (hl.commit _ _ _) only'

/-! ## 4. Each record once -/

/-- **A consumer takes each record once, in order**: `origin` is where it started, `base` the mark
    of its partition then, `s₀` the store then, and `log` everything accepted on the partition. -/
structure ExactlyOnce (process : Processing σ) (origin : Consumer) (base : Nat) (s₀ : σ)
    (log : List Record) (f : Feed σ) : Prop where
  /-- What it took are the records from its origin, or from the mark if that was later, up to its
      position. -/
  taken : f.taken = (log.take f.consumer.position).drop (max origin.position base)
  /-- The store is that of processing these records in order. -/
  store : f.store = replay process f.taken s₀
  applied : f.summary.applied = (outcomes process f.taken s₀).countP Except.isOk
  failed : f.summary.failed = (outcomes process f.taken s₀).countP fun o => !o.isOk
  /-- It never goes back. -/
  monotone : ∀ e, f.consumer.position ≤ (f.step process e).consumer.position
  /-- It stays where it started while nothing is there to take. -/
  waiting : log.length ≤ max origin.position base → f.consumer.position = origin.position
  /-- A poll that reads nothing changes nothing, and so commits nothing. -/
  idle : f.readable = [] → f.step process .poll = f
  /-- A poll that reads something ends at the end. -/
  caughtUp : f.readable ≠ [] → (f.step process .poll).consumer.position = log.length
  /-- After that nothing of the partition is kept. -/
  released : f.readable ≠ [] → ∀ offset,
    (f.step process .poll).transport.read origin.topic origin.partition offset = []
  /-- What is kept are the records from the mark on, which is the position once a record has been
      taken. -/
  kept : ∀ offset, f.transport.read origin.topic origin.partition offset =
    log.drop (max offset (if f.taken = [] then base else f.consumer.position))

theorem Tracks.exactlyOnce {process : Processing σ} {origin : Consumer} {base : Nat} {s₀ : σ}
    {f : Feed σ} {l : Ledger} (h : Tracks process origin base s₀ f l) :
    ExactlyOnce process origin base s₀ (l.log origin.topic origin.partition) f where
  taken := by
    rcases h.place with ⟨hp, -, ht⟩ | ⟨-, -, -, ht⟩
    · rw [ht, hp, eq_comm, List.drop_eq_nil_iff, List.length_take]
      omega
    · exact ht
  store := h.store
  applied := congrArg PollSummary.applied h.summary
  failed := congrArg PollSummary.failed h.summary
  monotone e := by
    cases e with
    | operation op => exact Nat.le_refl _
    | poll =>
      by_cases hdue : f.consumer.due l = []
      · exact Nat.le_of_eq (by rw [h.step_poll_of_nil hdue])
      · have hne := mt (f.consumer.due_eq_nil_iff l).mpr hdue
        rw [h.topic, h.partition] at hne
        rw [(h.step_poll_of_ne_nil hdue).1]
        omega
  waiting hle := by
    rw [Ledger.length_log] at hle
    rcases h.place with ⟨hp, -, -⟩ | ⟨hlt, hend, -, -⟩
    · exact hp
    · omega
  idle hnil := h.step_poll_of_nil (by rwa [← h.readable_eq])
  caughtUp hne := by
    rw [Ledger.length_log]
    exact (h.step_poll_of_ne_nil (by rwa [← h.readable_eq])).1
  released hne offset := by
    have hstep := (h.step_poll_of_ne_nil (by rwa [← h.readable_eq])).2
    have hle := h.refines.bounded origin.topic origin.partition
    rw [hstep.refines.read_eq, List.drop_eq_nil_iff, Ledger.log_commit, Ledger.length_log,
      Ledger.base_commit_self, Ledger.committed]
    omega
  kept offset := by
    rw [h.refines.read_eq]
    rcases h.place with ⟨-, hb, ht⟩ | ⟨hlt, hle, hb, ht⟩
    · rw [hb, if_pos ht]
    · have hne : f.taken ≠ [] := by
        rw [ht, Ne, List.drop_eq_nil_iff, List.length_take, Ledger.length_log]
        omega
      rw [hb, if_neg hne]

/-- **A consumer alone on its partition handles each record exactly once, in order**: from any
    origin, on a transport with any past, whatever is published and however records are processed,
    as long as nobody else commits the partition. -/
theorem exactlyOnce_run (n : Nat) (past : List Operation) (process : Processing σ)
    (origin : Consumer) (s₀ : σ) (events : List Event)
    (only : ∀ e ∈ events, e.Spares origin.topic origin.partition) :
    ExactlyOnce process origin
      (((Ledger.empty (max n 1)).run past).base origin.topic origin.partition) s₀
      (((Ledger.empty (max n 1)).run (past ++ operations events)).log origin.topic origin.partition)
      ((start origin ((Transport.empty n).run past) s₀).run process events) := by
  have h := tracks_start process (refines_run n past) origin s₀
  obtain ⟨m, hm, hsame⟩ := tracks_run h (Ledger.SameRecords.refl _) events only
  have hrun : (Ledger.empty (max n 1)).run (past ++ operations events) =
      ((Ledger.empty (max n 1)).run past).run (operations events) := List.foldl_append
  rw [hrun, ← hsame.log_eq]
  exact hm.exactlyOnce

/-- A consumer behind the mark of its partition, a store that refuses everything, and a record
    that arrives between two polls. -/
theorem exactlyOnce_run_refused :
    let events := [.poll, .operation (.publish "t" "3" [7]), .operation (.commit "u" 0 9), .poll]
    let past := [.publish "t" "1" [1], .publish "t" "2" [], .commit "t" 0 1]
    let refuse : Processing Nat := fun _ s => (.error (.store "store offline"), s + 1)
    (∀ e ∈ events, Event.Spares "t" 0 e) ∧
      ExactlyOnce refuse ⟨"t", 0, 0⟩ 1 0
        (((Ledger.empty 1).run (past ++ operations events)).log "t" 0)
        ((start ⟨"t", 0, 0⟩ ((Transport.empty 1).run past) 0).run refuse events) := by
  intro events past refuse
  have only : ∀ e ∈ events, Event.Spares "t" 0 e := by
    intro e he offset
    simp only [events, List.mem_cons, List.not_mem_nil, or_false] at he
    rcases he with rfl | rfl | rfl | rfl <;> simp
  exact ⟨only, exactlyOnce_run 1 past refuse ⟨"t", 0, 0⟩ 0 events only⟩

end Feed

end Catalogue
