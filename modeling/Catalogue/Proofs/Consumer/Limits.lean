import Catalogue.Proofs.Consumer.Contest
import Catalogue.Proofs.Transport.Limits

/-!
# Consumers within their limits

Any number of consumers, each on any partition of any topic and from any position on, poll a
transport to which anything else is done in between. This file does every step of that with partial
steps, as for the transport alone: nothing goes wrong as long as fewer than 2^64 records are
published.

* `Consumer.handle?`, `Contest.step?`, `Contest.run?` -- the steps of consumers, made of partial steps;
* `Contest.startAt` -- consumers anywhere, and a new transport;
* `Contest.Contained` -- the invariant: what a consumer has read comes before the end of the sequence,
  and it does not count more records than it has read (`Contained.step`);
* `Contest.Contained.run` -- the runs made of partial steps are the runs;
* `Contest.Safe`, `Contest.unfailing_run` -- what that means for every state that a run reaches.
-/

namespace Catalogue

/-! ## 1. Steps that may fail -/

/-- The summary with one more record, if the number fits. -/
def PollSummary.count? (summary : PollSummary) :
    Except ProcessingError Unit → Option PollSummary
  | .ok () => (plus? summary.applied 1).map fun n => { summary with applied := n }
  | .error _ => (plus? summary.failed 1).map fun n => { summary with failed := n }

/-- How many records a summary counts. -/
def PollSummary.total (summary : PollSummary) : Nat := summary.applied + summary.failed

section

variable {ι σ : Type}

/-- Handles one record, and moves past it if there is an offset behind it. -/
def Consumer.handle? (process : Processing σ) (r : Record) (st : Consumer × PollSummary × σ) :
    Option (Consumer × PollSummary × σ) := do
  let (c, summary, s) := st
  let (result, s) := process r.payload s
  let summary ← summary.count? result
  let position ← plus? r.offset 1
  some ({ c with position := position }, summary, s)

/-- **Handling a record fails in no step**, and counts it. -/
theorem Consumer.handle?_eq (process : Processing σ) {r : Record} {c : Consumer}
    {summary : PollSummary} (s : σ) (hoffset : r.offset + 1 < wordLimit)
    (htotal : summary.total + 1 < wordLimit) :
    handle? process r (c, summary, s) = some (handle process r (c, summary, s)) ∧
      (handle process r (c, summary, s)).2.1.total = summary.total + 1 := by
  have hle : summary.applied + summary.failed + 1 < wordLimit := htotal
  cases hresult : process r.payload s with
  | mk result s' =>
    simp only [handle?, handle, hresult, plus?_eq hoffset, Option.bind_eq_bind]
    cases result with
    | ok u =>
      have happlied : summary.applied + 1 < wordLimit := by omega
      simp only [PollSummary.count?, plus?_eq happlied, Option.map_some, Option.bind_some,
        PollSummary.total]
      exact ⟨trivial, by omega⟩
    | error e =>
      have hfailed : summary.failed + 1 < wordLimit := by omega
      simp only [PollSummary.count?, plus?_eq hfailed, Option.map_some, Option.bind_some,
        PollSummary.total]
      exact ⟨trivial, by omega⟩

namespace Contest

/-- Consumers that have not polled yet, wherever they begin, and a new transport. -/
def startAt (partitions : Nat) (consumers : ι → Consumer) (s : σ) : Contest ι σ where
  pollers i := ⟨consumers i, ⟨0, 0⟩, none⟩
  transport := .empty partitions
  store := s
  handed := []

/-- How many records are published in the course of events. -/
def publishes (events : List (Event ι)) : Nat := (operations events).countP Operation.isPublish

variable [DecidableEq ι]

/-- The contest after an event. A read computes nothing that could fail. -/
def step? (process : ι → Processing σ) (s : Contest ι σ) : Event ι → Option (Contest ι σ)
  | .operation op => (s.transport.applied? op).map fun t => { s with transport := t }
  | .read i => some (s.step process (.read i))
  | .handle i =>
    match (s.pollers i).batch with
    | some (r :: rest) =>
      (Consumer.handle? (process i) r (s.standing i)).map fun made => s.took i made rest [r]
    | _ => some s
  | .commit i =>
    let c := (s.pollers i).consumer
    match (s.pollers i).batch with
    | some [] => (s.transport.commit? c.topic c.partition c.position).map fun made =>
        { s.put i { s.pollers i with batch := none } with transport := made.1 }
    | _ => some s

/-- The contest after events in order. -/
def run? (process : ι → Processing σ) (s : Contest ι σ) (events : List (Event ι)) :
    Option (Contest ι σ) := events.foldlM (step? process) s

end Contest

/-! ## 2. The invariant -/

/-- **What a consumer has read and not handled yet**: the records come before a limit, and with those
    that the poll has counted there are no more than the limit says. -/
def Poller.Within (limit : Nat) (p : Poller) : Prop :=
  ∀ rs, p.batch = some rs →
    (∀ r ∈ rs, r.offset < limit) ∧ p.summary.total + rs.length ≤ limit

theorem Poller.Within.mono {limit limit' : Nat} {p : Poller} (h : p.Within limit)
    (hle : limit ≤ limit') : p.Within limit' := fun rs hrs =>
  ⟨fun r hr => Nat.lt_of_lt_of_le ((h rs hrs).1 r hr) hle, Nat.le_trans (h rs hrs).2 hle⟩

theorem Poller.within_idle (limit : Nat) {p : Poller} (h : p.batch = none) : p.Within limit :=
  fun rs hrs => by rw [h] at hrs; cases hrs

namespace Contest

/-- **Transport and consumers are below the sequence.** -/
structure Contained (s : Contest ι σ) : Prop where
  transport : s.transport.Contained
  pollers : ∀ i, (s.pollers i).Within s.transport.nextSequence

theorem contained_startAt (n : Nat) (consumers : ι → Consumer) (s : σ) :
    (startAt n consumers s).Contained :=
  ⟨Transport.contained_empty n, fun _ => Poller.within_idle _ rfl⟩

section

theorem publishes_cons (e : Event ι) (events : List (Event ι)) :
    publishes (e :: events) = publishes [e] + publishes events := by
  rw [publishes, operations_cons, List.countP_append]
  rfl

theorem publishes_operation (op : Operation) :
    publishes [(.operation op : Event ι)] = if op.isPublish then 1 else 0 := by
  cases op <;> rfl

variable [DecidableEq ι] (process : ι → Processing σ)

/-- Events do to the transport what operations do to it; where an event does nothing, a read does
    as much. -/
theorem exists_operation (s : Contest ι σ) (e : Event ι) :
    ∃ op : Operation, (s.step process e).transport = s.transport.apply op ∧
      publishes [e] = if op.isPublish then 1 else 0 := by
  cases e with
  | operation op => exact ⟨op, rfl, publishes_operation op⟩
  | read i =>
    refine ⟨.read "" 0 0, ?_, rfl⟩
    rw [step]
    split <;> rfl
  | handle i =>
    refine ⟨.read "" 0 0, ?_, rfl⟩
    rw [step]
    split <;> rfl
  | commit i =>
    by_cases hbatch : (s.pollers i).batch = some []
    · rw [step_commit process hbatch]
      exact ⟨.commit _ _ _, rfl, rfl⟩
    · rw [step_commit_of_ne process hbatch]
      exact ⟨.read "" 0 0, rfl, rfl⟩

/-- An event takes a number for each record that it publishes, and leaves the partitions. -/
theorem step_frame (s : Contest ι σ) (e : Event ι) :
    (s.step process e).transport.partitions = s.transport.partitions ∧
      (s.step process e).transport.nextSequence ≤ s.transport.nextSequence + publishes [e] := by
  obtain ⟨op, hop, hcost⟩ := s.exists_operation process e
  obtain ⟨hpartitions, -, hsequence⟩ := s.transport.apply_frame op
  rw [hop, hcost]
  exact ⟨hpartitions, hsequence⟩

theorem partitions_run (s : Contest ι σ) (events : List (Event ι)) :
    (s.run process events).transport.partitions = s.transport.partitions := by
  induction events generalizing s with
  | nil => rfl
  | cons e events ih => exact (ih (s.step process e)).trans (s.step_frame process e).1

end

namespace Contained

variable [DecidableEq ι] {s : Contest ι σ} (process : ι → Processing σ)

omit [DecidableEq ι] in
theorem withTransport (h : s.Contained) {t : Transport} (ht : t.Contained)
    (hle : s.transport.nextSequence ≤ t.nextSequence) : Contained { s with transport := t } :=
  ⟨ht, fun i => (h.pollers i).mono hle⟩

theorem put (h : s.Contained) (i : ι) {p : Poller} (hp : p.Within s.transport.nextSequence) :
    (s.put i p).Contained :=
  ⟨h.transport, forall_put (Poller.Within s.transport.nextSequence) s hp fun j _ => h.pollers j⟩

omit [DecidableEq ι] in
/-- What is handled next comes before the end of the sequence, and so do all records counted. -/
theorem handled (h : s.Contained) {i : ι} {r : Record} {rest : List Record}
    (hbatch : (s.pollers i).batch = some (r :: rest))
    (hlimit : s.transport.nextSequence < wordLimit) :
    Consumer.handle? (process i) r (s.standing i) =
        some (Consumer.handle (process i) r (s.standing i)) ∧
      (Consumer.handle (process i) r (s.standing i)).2.1.total = (s.pollers i).summary.total + 1 := by
  obtain ⟨hoffset, htotal⟩ := h.pollers i _ hbatch
  have hr := hoffset r List.mem_cons_self
  rw [List.length_cons] at htotal
  exact Consumer.handle?_eq (process i) s.store (by omega) (by omega)

/-- **An event keeps transport and consumers below the sequence.** -/
theorem step (h : s.Contained) (hlimit : s.transport.nextSequence < wordLimit) (e : Event ι) :
    (s.step process e).Contained := by
  cases e with
  | operation op =>
    exact h.withTransport (h.transport.apply op) (s.transport.apply_frame op).2.1
  | read i =>
    rw [Contest.step]
    split
    · exact h
    · exact h.put i (Poller.within_idle _ rfl)
    next r rest _ hread =>
      refine h.put i fun rs hrs => ?_
      obtain ⟨hlength, hoffset⟩ := h.transport.read (s.pollers i).consumer.topic
        (s.pollers i).consumer.partition (s.pollers i).consumer.position
      rw [hread, Option.some.inj hrs] at hlength hoffset
      exact ⟨hoffset, by rwa [PollSummary.total, Nat.add_zero, Nat.zero_add]⟩
  | handle i =>
    cases hbatch : (s.pollers i).batch with
    | none =>
      simp only [Contest.step, hbatch]
      exact h
    | some rs =>
      cases rs with
      | nil =>
        simp only [Contest.step, hbatch]
        exact h
      | cons r rest =>
        obtain ⟨hoffset, htotal⟩ := h.pollers i _ hbatch
        have hcount := (h.handled process hbatch hlimit).2
        rw [step_handle process hbatch]
        -- the record handled leaves the batch and enters the count, so their sum stays
        refine ⟨h.transport, (h.put i fun rs hrs => ?_).pollers⟩
        obtain rfl := Option.some.inj hrs
        refine ⟨fun r' hr' => hoffset r' (List.mem_cons_of_mem r hr'), ?_⟩
        show (Consumer.handle (process i) r (s.standing i)).2.1.total + rest.length ≤ _
        rw [hcount]
        rw [List.length_cons] at htotal
        omega
  | commit i =>
    by_cases hbatch : (s.pollers i).batch = some []
    · rw [step_commit process hbatch]
      exact (h.put i (Poller.within_idle _ rfl)).withTransport (h.transport.commit _ _ _)
        (Nat.le_of_eq (s.transport.commit_frame _ _ _).2.symm)
    · rw [step_commit_of_ne process hbatch]
      exact h

/-! ## 3. No step fails -/

/-- **An event fails in no step**, if there is a number left for the record it may publish. -/
theorem step?_eq (h : s.Contained) {e : Event ι}
    (hlimit : s.transport.nextSequence + publishes [e] < wordLimit) :
    s.step? process e = some (s.step process e) := by
  have hnow : s.transport.nextSequence < wordLimit := by omega
  cases e with
  | operation op =>
    rw [publishes_operation] at hlimit
    rw [step?, h.transport.applied?_eq hlimit, Option.map_some]
    rfl
  | read i => rfl
  | handle i =>
    cases hbatch : (s.pollers i).batch with
    | none => simp only [step?, Contest.step, hbatch]
    | some rs =>
      cases rs with
      | nil => simp only [step?, Contest.step, hbatch]
      | cons r rest =>
        simp only [step?, Contest.step, hbatch, (h.handled process hbatch hnow).1, Option.map_some]
  | commit i =>
    cases hbatch : (s.pollers i).batch with
    | none => simp only [step?, Contest.step, hbatch]
    | some rs =>
      cases rs with
      | nil =>
        simp only [step?, Contest.step, hbatch, h.transport.commit?_eq hnow, Option.map_some]
      | cons r rest => simp only [step?, Contest.step, hbatch]

/-- **No step of a run fails**, and the sequence stays below its limit. -/
theorem run (h : s.Contained) {events : List (Event ι)}
    (hlimit : s.transport.nextSequence + publishes events < wordLimit) :
    s.run? process events = some (s.run process events) ∧ (s.run process events).Contained ∧
      (s.run process events).transport.nextSequence < wordLimit := by
  induction events generalizing s with
  | nil => exact ⟨rfl, h, Nat.lt_of_le_of_lt (Nat.le_add_right _ _) hlimit⟩
  | cons e events ih =>
    rw [publishes_cons] at hlimit
    have hsequence := (s.step_frame process e).2
    have hstep := h.step?_eq process (by omega : s.transport.nextSequence + publishes [e] < _)
    obtain ⟨hrun, hreached⟩ := ih (h.step process (by omega) e) (by omega)
    refine ⟨?_, hreached⟩
    rw [run?, List.foldlM_cons, hstep]
    exact hrun

end Contained

/-! ## 4. Every state that is reached -/

/-- **Nothing overflows, and every index exists**: in the transport, and for what consumers have read
    and not handled yet. -/
structure Safe (partitions : Nat) (s : Contest ι σ) : Prop where
  /-- There are as many partitions as asked for, but one at least. -/
  partitions_eq : s.transport.partitions = max partitions 1
  transport : s.transport.Safe
  /-- A consumer can move past every record that it has read. -/
  advance : ∀ i rs, (s.pollers i).batch = some rs → ∀ r ∈ rs,
    plus? r.offset 1 = some (r.offset + 1)

theorem Contained.safe {s : Contest ι σ} (h : s.Contained)
    (hlimit : s.transport.nextSequence < wordLimit) {partitions : Nat}
    (heq : s.transport.partitions = max partitions 1) : s.Safe partitions where
  partitions_eq := heq
  transport := h.transport.safe hlimit
  advance i rs hrs r hr :=
    plus?_eq (Nat.lt_of_le_of_lt (((h.pollers i) rs hrs).1 r hr) hlimit)

variable [DecidableEq ι]

/-- **A run in which fewer than 2^64 records are published fails in no step**, with any number of
    partitions, whatever is committed and read, and wherever consumers begin; and every state that it
    reaches is safe. -/
theorem unfailing_run (process : ι → Processing σ) (n : Nat) (consumers : ι → Consumer) (s : σ)
    (events : List (Event ι)) (few : publishes events < wordLimit) :
    (startAt n consumers s).run? process events =
        some ((startAt n consumers s).run process events) ∧
      ((startAt n consumers s).run process events).Safe n := by
  have hlimit : (startAt n consumers s).transport.nextSequence + publishes events < wordLimit := by
    rw [show (startAt n consumers s).transport.nextSequence = 0 from rfl, Nat.zero_add]
    exact few
  obtain ⟨hrun, hreached, hsequence⟩ := (contained_startAt n consumers s).run process hlimit
  exact ⟨hrun, hreached.safe hsequence (partitions_run process _ events)⟩

/-- A transport that was asked for no partition, a consumer that begins where offsets end, and commits
    past the end and of nothing. -/
theorem unfailing_run_past_end :
    let events : List (Event Bool) :=
      [.operation (.publish "t" "1" [1]), .read false, .operation (.publish "t" "2" []),
        .handle false, .operation (.commit "t" 0 18446744073709551615), .commit false, .read true,
        .operation (.commit "t" 0 0), .operation (.commit "u" 7 3),
        .operation (.publish "t" "1" [2]), .read false]
    let process : Bool → Processing Nat := fun b _ n =>
      if b then (.error (.store "store offline"), n) else (.ok (), n + 1)
    let consumers : Bool → Consumer := fun b => ⟨"t", 0, if b then 18446744073709551615 else 0⟩
    let reached := (startAt 0 consumers 0).run process events
    publishes events < wordLimit ∧ (startAt 0 consumers 0).run? process events = some reached ∧
      reached.Safe 0 ∧ (reached.pollers false).batch = some [⟨"t", 0, 2, 2, "1", [2]⟩] := by
  intro events process consumers reached
  have few : publishes events < wordLimit := by decide
  obtain ⟨hrun, hsafe⟩ := unfailing_run process 0 consumers 0 events few
  exact ⟨few, hrun, hsafe, by decide +kernel⟩

end Contest

end

end Catalogue
