import Catalogue.Proofs.Write.Effects

/-!
# Refused hand-overs

A carrier may refuse any message, for any reason, and others use it while a write is on its way. A
domain stops at its first refusal, and the other two go on. The caller learns of the first refusal
in the order of the domains, and of nothing else.

* `Attempt` -- a message as it was handed to a carrier, with the answer; `Carrier.recorded` -- a
  carrier that keeps its attempts;
* `Propagation.step_of_pending` -- one hand-over, `step_recorded` -- the same with the list kept;
* `Dispatch` -- a write on its way, `Turn` -- what can happen next;
* `Dispatch.answer` -- what the caller gets, once nothing is left to do;
* `Write.intended` -- the messages that a write is meant to hand over, read off the request;
* `Trail` -- what a domain leaves behind: messages in order, up to the end or to a refusal;
* `Dispatch.Sound` -- the invariant of a write on its way, `sound_turns` -- it holds in every run;
* `call_eq_turns` -- a call at a stroke is one of the runs;
* `accounted_turns` -- what was accepted and what the caller gets, in every run.
-/

namespace Catalogue

/-! ## 1. Attempts -/

/-- A message as it was handed to a carrier, and what the carrier answered. -/
structure Attempt where
  topic : String
  message : Message
  answer : Except Refusal Unit

namespace Attempt

/-- The message, if it was accepted. -/
def accepted? (a : Attempt) : Option Message :=
  match a.answer with
  | .ok () => some a.message
  | .error _ => none

/-- The refusal, if there was one. -/
def refusal? (a : Attempt) : Option Refusal :=
  match a.answer with
  | .ok () => none
  | .error r => some r

/-- A message that was accepted. -/
def accepted (topic : String) (m : Message) : Attempt := ⟨topic, m, .ok ()⟩

theorem filterMap_accepted (topic : String) (ms : List Message) :
    (ms.map (accepted topic)).filterMap accepted? = ms := by
  rw [List.filterMap_map]
  exact List.filterMap_some

theorem findSome?_accepted (topic : String) (ms : List Message) :
    (ms.map (accepted topic)).findSome? refusal? = none := by
  rw [List.findSome?_eq_none_iff]
  intro a ha
  obtain ⟨m, -, rfl⟩ := List.mem_map.mp ha
  rfl

end Attempt

/-- A carrier that keeps a list of what it was handed and what it answered. -/
def Carrier.recorded {σ : Type} (c : Carrier σ) : Carrier (List Attempt × σ) where
  publish := fun (attempts, s) topic key payload =>
    let (answer, s) := c.publish s topic key payload
    (answer, attempts ++ [⟨topic, ⟨key, payload⟩, answer⟩], s)

/-! ## 2. One hand-over -/

namespace Propagation

variable {σ : Type} (p : Propagation) (c : Carrier σ) (d : Domain) (s : σ)

/-- A propagation after the next message of a domain was answered: it is taken off what is left if
    it was accepted, and stops the domain if it was refused. -/
def answered (rest : List Message) : Except Refusal Unit → Propagation
  | .ok () => { p with pending := set p.pending d rest }
  | .error r => { p with refused := set p.refused d (some r) }

/-- A domain is settled, or there is a message to hand over. -/
theorem settled_or_pending : p.settled d = true ∨
    ∃ m rest, p.refused d = none ∧ p.pending d = m :: rest := by
  rw [settled, Bool.or_eq_true]
  cases hr : p.refused d with
  | some r => exact .inl (.inl rfl)
  | none =>
    cases p.pending d with
    | nil => exact .inl (.inr rfl)
    | cons m rest => exact .inr ⟨m, rest, rfl, rfl⟩

theorem step_of_settled {p : Propagation} {d : Domain} (h : p.settled d = true) :
    p.step c d s = (p, s) := by
  rw [settled, Bool.or_eq_true, List.isEmpty_iff] at h
  unfold step
  split
  · next hr hp =>
    rw [hr, hp] at h
    rcases h with h | h
    · cases h
    · cases h
  · rfl

/-- **A message is handed to the carrier, and the answer counts.** -/
theorem step_of_pending {p : Propagation} {d : Domain} {m : Message} {rest : List Message}
    (hr : p.refused d = none) (hp : p.pending d = m :: rest) :
    p.step c d s = (p.answered d rest (c.publish s d.topic m.key m.payload).1,
      (c.publish s d.topic m.key m.payload).2) := by
  simp only [step, hr, hp]
  cases c.publish s d.topic m.key m.payload with
  | mk answer s' =>
    cases answer with
    | ok u => rfl
    | error r => rfl

/-- **Keeping a list makes no difference** to what a hand-over does. -/
theorem step_recorded (attempts : List Attempt) :
    ((p.step c.recorded d (attempts, s)).1, (p.step c.recorded d (attempts, s)).2.2) =
      p.step c d s := by
  rcases p.settled_or_pending d with h | ⟨m, rest, hr, hp⟩
  · rw [step_of_settled _ _ h, step_of_settled _ _ h]
  · rw [step_of_pending _ _ hr hp, step_of_pending _ _ hr hp]
    rfl

end Propagation

/-! ## 3. Writes on their way -/

/-- How a write ends for its caller. -/
def Propagation.result (p : Propagation) : Except Failure Unit :=
  match p.outcome with
  | .ok () => .ok ()
  | .error r => .error ⟨.unexpected, r.message⟩

/-- Where the domains come one after another, each comes once for each of its messages. -/
theorem Propagation.count_inOrder (ms : Domain → List Message) (d : Domain) :
    (inOrder ms).count d = (ms d).length := by
  simp only [inOrder, Domain.all, List.flatMap_cons, List.flatMap_nil, List.append_nil,
    List.count_append, List.count_replicate]
  cases d with
  | product => simp
  | recommendation => simp
  | review => simp

theorem propagate_eq {σ : Type} (c : Carrier σ) (ms : Domain → List Message) (s : σ) :
    propagate c ms s =
      (((Propagation.start ms).steps c (Propagation.inOrder ms) s).1.result,
        ((Propagation.start ms).steps c (Propagation.inOrder ms) s).2) := by
  simp only [propagate, Propagation.result]
  cases ((Propagation.start ms).steps c (Propagation.inOrder ms) s).1.outcome with
  | ok u => rfl
  | error r => rfl

/-- The rule that a write breaks, if it breaks one. -/
def Write.violation : Write → Option Violation
  | .create request =>
    match request.toWrite with
    | .error v => some v
    | .ok _ => none
  | .delete _ => none

/-- What can happen while a write is on its way. -/
inductive Turn (σ : Type) where
  /-- A domain hands over its next message. -/
  | handOver (d : Domain)
  /-- Others use the carrier. -/
  | others (move : σ → σ)

/-- Whether a domain is on. -/
def Turn.isFor {σ : Type} (d : Domain) : Turn σ → Bool
  | .handOver e => e = d
  | .others _ => false

/-- A write on its way through a carrier, with the attempts it has made. -/
structure Dispatch (σ : Type) where
  write : Write
  propagation : Propagation
  attempts : List Attempt
  carrier : σ

namespace Dispatch

variable {σ : Type}

/-- A write that has not handed over anything. -/
def start (w : Write) (stamps : Stamps) (s : σ) : Dispatch σ :=
  ⟨w, .start (w.messages stamps), [], s⟩

/-- What a turn does. -/
def turn (c : Carrier σ) (x : Dispatch σ) : Turn σ → Dispatch σ
  | .handOver d =>
    let (propagation, attempts, carrier) :=
      x.propagation.step c.recorded d (x.attempts, x.carrier)
    { x with propagation, attempts, carrier }
  | .others move => { x with carrier := move x.carrier }

/-- Turn after turn. -/
def turns (c : Carrier σ) (x : Dispatch σ) (ts : List (Turn σ)) : Dispatch σ :=
  ts.foldl (turn c) x

/-- What the caller gets: at once if the write breaks a rule, else when all domains are done. -/
def answer (x : Dispatch σ) : Option (Except Failure Unit) :=
  match x.write.violation with
  | some v => some (.error (.ofViolation v))
  | none => if Domain.all.all x.propagation.settled then some x.propagation.result else none

/-- The attempts on the topic of a domain. -/
def on (x : Dispatch σ) (d : Domain) : List Attempt :=
  x.attempts.filter fun a => a.topic == d.topic

/-- The messages that were accepted on the topic of a domain. -/
def acceptedOn (x : Dispatch σ) (d : Domain) : List Message :=
  (x.on d).filterMap Attempt.accepted?

/-- The first refusal on the topic of a domain. -/
def refusalOn (x : Dispatch σ) (d : Domain) : Option Refusal :=
  (x.on d).findSome? Attempt.refusal?

/-- **What the next hand-over of a domain does**: nothing if the domain is done; otherwise its next
    message is one more attempt. -/
theorem handOver_cases (c : Carrier σ) (x : Dispatch σ) (d : Domain) :
    (x.propagation.settled d = true ∧ x.turn c (.handOver d) = x) ∨
    (∃ m rest answer s, x.propagation.refused d = none ∧ x.propagation.pending d = m :: rest ∧
      x.turn c (.handOver d) =
        { x with
          propagation := x.propagation.answered d rest answer
          attempts := x.attempts ++ [⟨d.topic, m, answer⟩]
          carrier := s }) := by
  rcases x.propagation.settled_or_pending d with h | ⟨m, rest, hr, hp⟩
  · refine .inl ⟨h, ?_⟩
    rw [turn, Propagation.step_of_settled _ _ h]
  · refine .inr ⟨m, rest, (c.publish x.carrier d.topic m.key m.payload).1,
      (c.publish x.carrier d.topic m.key m.payload).2, hr, hp, ?_⟩
    rw [turn, Propagation.step_of_pending _ _ hr hp]
    rfl

end Dispatch

/-! ## 4. What a domain leaves behind -/

/-- **What a domain leaves behind after `n` turns**: its first `n` messages, all accepted, or fewer
    of them and the next one, refused. The order is that of the messages. -/
inductive Trail (topic : String) (ms : List Message) (n : Nat) : List Attempt → Prop where
  | accepted : Trail topic ms n ((ms.take n).map (.accepted topic))
  | refused {i : Nat} {m : Message} (r : Refusal) (before : i < n) (next : ms[i]? = some m) :
      Trail topic ms n ((ms.take i).map (.accepted topic) ++ [⟨topic, m, .error r⟩])

namespace Trail

variable {topic : String} {ms : List Message} {n : Nat} {as : List Attempt}

/-- The two cases, told apart by whether there is a refusal. -/
theorem cases_refusal (h : Trail topic ms n as) :
    (as = (ms.take n).map (.accepted topic) ∧ as.findSome? Attempt.refusal? = none ∧
      as.filterMap Attempt.accepted? = ms.take n) ∨
    (∃ i m r, i < n ∧ ms[i]? = some m ∧
      as = (ms.take i).map (.accepted topic) ++ [⟨topic, m, .error r⟩] ∧
      as.findSome? Attempt.refusal? = some r ∧
      as.filterMap Attempt.accepted? = ms.take i) := by
  cases h with
  | accepted =>
    exact .inl ⟨rfl, Attempt.findSome?_accepted topic _, Attempt.filterMap_accepted topic _⟩
  | @refused i m r before next =>
    refine .inr ⟨i, m, r, before, next, rfl, ?_, ?_⟩
    · rw [List.findSome?_append, Attempt.findSome?_accepted]
      rfl
    · rw [List.filterMap_append, Attempt.filterMap_accepted]
      exact List.append_nil _

end Trail

/-- **A domain keeps to its messages**: `as` are its attempts in `n` turns, `left` are the messages
    that are still to be handed over, and `refusal` is what stopped it. -/
structure KeepsTo (topic : String) (ms : List Message) (n : Nat) (as : List Attempt)
    (left : List Message) (refusal : Option Refusal) : Prop where
  trail : Trail topic ms n as
  left : as.filterMap Attempt.accepted? ++ left = ms
  refusal : refusal = as.findSome? Attempt.refusal?

namespace KeepsTo

variable {topic : String} {ms : List Message} {n : Nat} {as : List Attempt} {left : List Message}
  {refusal : Option Refusal} {m : Message}

theorem start : KeepsTo topic ms 0 [] ms none := ⟨.accepted, rfl, rfl⟩

/-- Nothing comes after a refusal, or after the last message. -/
theorem idle (h : KeepsTo topic ms n as left refusal) (hdone : refusal.isSome = true ∨ left = []) :
    KeepsTo topic ms (n + 1) as left refusal := by
  refine ⟨?_, h.left, h.refusal⟩
  rcases h.trail.cases_refusal with ⟨has, hnone, hacc⟩ | ⟨i, m, r, before, next, has, -, -⟩
  · rcases hdone with hrefused | hleft
    · rw [h.refusal, hnone] at hrefused
      cases hrefused
    · have hn : ms.take n = ms := by rw [← hacc, ← h.left, hleft, List.append_nil]
      have hlength : ms.length ≤ n := by
        rw [← hn, List.length_take]
        exact Nat.min_le_left _ _
      have htrail : Trail topic ms (n + 1) ((ms.take (n + 1)).map (.accepted topic)) := .accepted
      rw [has, hn]
      rwa [List.take_of_length_le (Nat.le_succ_of_le hlength)] at htrail
  · rw [has]
    exact .refused r (Nat.lt_succ_of_lt before) next

/-- As long as nothing was refused, a domain hands over one message in each turn. -/
theorem next (h : KeepsTo topic ms n as (m :: left) none) :
    as = (ms.take n).map (.accepted topic) ∧ ms.take n ++ m :: left = ms ∧ ms[n]? = some m := by
  rcases h.trail.cases_refusal with ⟨has, -, hacc⟩ | ⟨i, m, r, -, -, -, hrefused, -⟩
  · have hsplit : ms.take n ++ m :: left = ms := hacc ▸ h.left
    have hdrop : ms.drop n = m :: left :=
      List.append_cancel_left ((List.take_append_drop n ms).trans hsplit.symm)
    refine ⟨has, hsplit, ?_⟩
    rw [← List.head?_drop, hdrop]
    rfl
  · rw [← h.refusal] at hrefused
    cases hrefused

/-- The next message is accepted. -/
theorem accept (h : KeepsTo topic ms n as (m :: left) none) :
    KeepsTo topic ms (n + 1) (as ++ [⟨topic, m, .ok ()⟩]) left none := by
  obtain ⟨has, hsplit, hm⟩ := h.next
  have htake : ms.take (n + 1) = ms.take n ++ [m] := by
    rw [List.take_add_one, hm]
    rfl
  have has' : as ++ [⟨topic, m, .ok ()⟩] = (ms.take (n + 1)).map (.accepted topic) := by
    rw [htake, List.map_append, has]
    rfl
  rw [has']
  refine ⟨.accepted, ?_, (Attempt.findSome?_accepted topic _).symm⟩
  rw [Attempt.filterMap_accepted, htake, List.append_assoc]
  exact hsplit

/-- The next message is refused. -/
theorem refuse (h : KeepsTo topic ms n as (m :: left) none) (r : Refusal) :
    KeepsTo topic ms (n + 1) (as ++ [⟨topic, m, .error r⟩]) (m :: left) (some r) := by
  obtain ⟨has, hsplit, hm⟩ := h.next
  rw [has]
  refine ⟨.refused r (Nat.lt_succ_self n) hm, ?_, ?_⟩
  · rw [List.filterMap_append, Attempt.filterMap_accepted]
    exact (congrArg (· ++ m :: left) (List.append_nil _)).trans hsplit
  · rw [List.findSome?_append, Attempt.findSome?_accepted]
    rfl

/-- Nothing is left when everything was accepted. -/
theorem left_eq_nil_iff (h : KeepsTo topic ms n as left refusal) :
    left = [] ↔ as.filterMap Attempt.accepted? = ms := by
  constructor
  · rintro rfl
    exact (List.append_nil _).symm.trans h.left
  · intro hall
    exact List.append_right_eq_self.mp (h.left.trans hall.symm)

/-- What was refused is left. -/
theorem refusal_eq_none (h : KeepsTo topic ms n as [] refusal) : refusal = none := by
  rcases h.trail.cases_refusal with ⟨-, hnone, -⟩ | ⟨i, m, r, -, hm, -, -, hacc⟩
  · rw [h.refusal, hnone]
  · have hlength : ms.length ≤ i := by
      rw [← h.left, hacc, List.append_nil, List.length_take]
      exact Nat.min_le_left _ _
    rw [List.getElem?_eq_none hlength] at hm
    cases hm

/-- A domain that had a turn for each message is done. -/
theorem done (h : KeepsTo topic ms n as left refusal) (hn : ms.length ≤ n) :
    refusal.isSome = true ∨ left = [] := by
  cases hr : refusal with
  | some r => exact .inl rfl
  | none =>
    cases left with
    | nil => exact .inr rfl
    | cons m left =>
      rw [hr] at h
      have hm := h.next.2.2
      rw [List.getElem?_eq_none hn] at hm
      cases hm

end KeepsTo

/-! ## 5. The invariant -/

namespace Dispatch

variable {σ : Type}

/-- **A write on its way keeps to its messages**: `ms` are the messages of each domain, and `n` is
    how often each domain was on. Nothing is handed over on other topics. -/
structure Sound (ms : Domain → List Message) (n : Domain → Nat) (x : Dispatch σ) : Prop where
  keeps : ∀ d, KeepsTo d.topic (ms d) (n d) (x.on d) (x.propagation.pending d)
    (x.propagation.refused d)
  topics : ∀ a ∈ x.attempts, ∃ d : Domain, a.topic = d.topic

theorem sound_start (w : Write) (stamps : Stamps) (s : σ) :
    Sound (w.messages stamps) (fun _ => 0) (.start w stamps s) :=
  ⟨fun _ => .start, fun _ ha => absurd ha List.not_mem_nil⟩

/-- An attempt is seen on its own topic only. -/
theorem on_append {x y : Dispatch σ} {a : Attempt} {d : Domain} (ha : a.topic = d.topic)
    (h : y.attempts = x.attempts ++ [a]) (e : Domain) :
    y.on e = if e = d then x.on e ++ [a] else x.on e := by
  rw [on, h, List.filter_append]
  by_cases he : e = d
  · subst he
    simp [on, ha]
  · have hne : a.topic ≠ e.topic := fun h' => he (Domain.topic_injective (h'.symm.trans ha))
    simp [on, he, hne]

namespace Sound

variable {ms : Domain → List Message} {n : Domain → Nat} {x : Dispatch σ}

/-- **A hand-over keeps the invariant**; the other domains do not notice. -/
theorem handOver (h : Sound ms n x) (c : Carrier σ) (d : Domain) :
    Sound ms (fun e => if e = d then n e + 1 else n e) (x.turn c (.handOver d)) := by
  have hd := h.keeps d
  rcases x.handOver_cases c d with ⟨hsettled, hturn⟩ | ⟨m, rest, answer, s, hr, hp, hturn⟩
  · rw [hturn]
    refine ⟨fun e => ?_, h.topics⟩
    by_cases he : e = d
    · subst he
      rw [Propagation.settled, Bool.or_eq_true, List.isEmpty_iff] at hsettled
      rw [if_pos rfl]
      exact hd.idle hsettled
    · rw [if_neg he]
      exact h.keeps e
  · rw [hr, hp] at hd
    have hattempts : (x.turn c (.handOver d)).attempts = x.attempts ++ [⟨d.topic, m, answer⟩] := by
      rw [hturn]
    refine ⟨fun e => ?_, fun a ha => ?_⟩
    · rw [on_append rfl hattempts, hturn]
      by_cases he : e = d
      · subst he
        cases answer with
        | ok u => simpa [Propagation.answered, Propagation.set, hr] using hd.accept
        | error r => simpa [Propagation.answered, Propagation.set, hp] using hd.refuse r
      · cases answer with
        | ok u => simpa [Propagation.answered, Propagation.set, he] using h.keeps e
        | error r => simpa [Propagation.answered, Propagation.set, he] using h.keeps e
    · rw [hattempts, List.mem_append, List.mem_singleton] at ha
      rcases ha with ha | rfl
      · exact h.topics a ha
      · exact ⟨d, rfl⟩

/-- **A turn keeps the invariant**, whoever is on. -/
theorem turn (h : Sound ms n x) (c : Carrier σ) (t : Turn σ) :
    Sound ms (fun d => n d + if t.isFor d then 1 else 0) (x.turn c t) := by
  cases t with
  | handOver e =>
    have hn : (fun d => n d + if (Turn.handOver e : Turn σ).isFor d then 1 else 0) =
        fun d => if d = e then n d + 1 else n d := by
      funext d
      by_cases hd : d = e
      · simp [Turn.isFor, hd]
      · simp [Turn.isFor, hd, Ne.symm hd]
    rw [hn]
    exact h.handOver c e
  | others move => exact ⟨h.keeps, h.topics⟩

/-- **A run keeps the invariant.** -/
theorem turns (h : Sound ms n x) (c : Carrier σ) (ts : List (Turn σ)) :
    Sound ms (fun d => n d + ts.countP (Turn.isFor d)) (x.turns c ts) := by
  induction ts generalizing n x with
  | nil => exact h
  | cons t ts ih =>
    have hn : (fun d => n d + (t :: ts).countP (Turn.isFor d)) =
        fun d => (n d + if t.isFor d then 1 else 0) + ts.countP (Turn.isFor d) := by
      funext d
      rw [List.countP_cons]
      omega
    rw [hn]
    exact ih (h.turn c t)

/-- Where there is nothing to hand over, nothing is. -/
theorem attempts_eq_nil (h : Sound (fun _ => []) n x) : x.attempts = [] := by
  refine List.eq_nil_iff_forall_not_mem.mpr fun a ha => ?_
  obtain ⟨d, hd⟩ := h.topics a ha
  have hon : a ∈ x.on d := List.mem_filter.mpr ⟨ha, by rw [hd]; exact beq_self_eq_true _⟩
  rcases (h.keeps d).trail.cases_refusal with ⟨has, -, -⟩ | ⟨i, m, r, -, hm, -, -, -⟩
  · rw [has, List.take_nil] at hon
    exact absurd hon List.not_mem_nil
  · cases hm

end Sound

theorem write_turns (c : Carrier σ) (x : Dispatch σ) (ts : List (Turn σ)) :
    (x.turns c ts).write = x.write := by
  induction ts generalizing x with
  | nil => rfl
  | cons t ts ih =>
    have ht : (x.turn c t).write = x.write := by
      cases t with
      | handOver d => rfl
      | others move => rfl
    exact (ih (x.turn c t)).trans ht

theorem sound_turns (c : Carrier σ) (w : Write) (stamps : Stamps) (s : σ) (ts : List (Turn σ)) :
    Sound (w.messages stamps) (fun d => ts.countP (Turn.isFor d)) ((start w stamps s).turns c ts) := by
  have h := (sound_start w stamps s).turns c ts
  simpa only [Nat.zero_add] using h

end Dispatch

/-! ## 6. The messages that are meant -/

/-- The events of a create, read off the request: one for the product, one per recommendation and
    one per review, in the order of the request, each with a stamp of its own. -/
def CreateRequest.events (r : CreateRequest) (item : ItemId) (stamps : Stamps) :
    (d : Domain) → List (ChangeEvent d.Carried)
  | .product =>
    [⟨item, .create (⟨item, r.name, r.weight, none⟩ : Product), stamps.of .product 0⟩]
  | .recommendation => (r.recommendations.getD []).mapIdx fun i s =>
    ⟨item, .create (s.under item), stamps.of .recommendation i⟩
  | .review => (r.reviews.getD []).mapIdx fun i s =>
    ⟨item, .create (s.under item), stamps.of .review i⟩

namespace Write

/-- **The messages that a write is meant to hand over**: the events of a create, or one delete per
    domain; none if the request breaks a rule. -/
def intended (stamps : Stamps) : Write → Except Violation (Domain → List Message)
  | .create request =>
    match request.toWrite with
    | .error v => .error v
    | .ok w => .ok fun d => (request.events w.itemId stamps d).map (Message.ofEvent d.codec)
  | .delete item => .ok fun d => [Message.ofEvent Json.Codec.unit ⟨item, .delete, stamps.of d 0⟩]

variable {w : Write} {stamps : Stamps}

theorem of_intended_ok {ms : Domain → List Message} (h : w.intended stamps = .ok ms) :
    w.messages stamps = ms ∧ w.violation = none := by
  cases w with
  | delete item =>
    cases h
    exact ⟨rfl, rfl⟩
  | create request =>
    cases haw : request.toWrite with
    | error v =>
      simp only [intended, haw] at h
      cases h
    | ok aw =>
      simp only [intended, haw] at h
      cases h
      simp only [messages, violation, haw, and_true]
      obtain ⟨item, -, rfl⟩ := CreateRequest.of_toWrite haw
      funext d
      cases d with
      | product => rfl
      | recommendation =>
        simp only [createMessages, creations, CreateRequest.events, CreateRequest.entitiesUnder,
          List.mapIdx_eq_zipIdx_map, List.zipIdx_map, List.map_map]
        rfl
      | review =>
        simp only [createMessages, creations, CreateRequest.events, CreateRequest.entitiesUnder,
          List.mapIdx_eq_zipIdx_map, List.zipIdx_map, List.map_map]
        rfl

theorem of_intended_error {v : Violation} (h : w.intended stamps = .error v) :
    w.messages stamps = (fun _ => []) ∧ w.violation = some v := by
  cases w with
  | delete item => cases h
  | create request =>
    cases haw : request.toWrite with
    | error v =>
      simp only [intended, haw] at h
      cases h
      simp only [messages, violation, haw, and_self]
    | ok aw =>
      simp only [intended, haw] at h
      cases h

end Write

/-! ## 7. What the caller gets -/

namespace Dispatch

variable {σ : Type}

/-- **What can be said of a write on its way**: `ms` are the messages that are meant, and `n` is how
    often each domain was on. -/
structure Accounted (ms : Domain → List Message) (n : Domain → Nat) (x : Dispatch σ) : Prop where
  /-- A domain hands over its messages in order, one in each turn, up to its own first refusal. What
      becomes of the other domains makes no difference. -/
  trail : ∀ d, Trail d.topic (ms d) (n d) (x.on d)
  /-- Nothing is handed over on other topics. -/
  topics : ∀ a ∈ x.attempts, ∃ d : Domain, a.topic = d.topic
  /-- The caller waits until each domain was refused a message or has handed over all of them. -/
  answered_iff : x.answer.isSome = true ↔
    ∀ d, (x.refusalOn d).isSome = true ∨ x.acceptedOn d = ms d
  /-- It does not take more turns than there are messages. -/
  answered : (∀ d, (ms d).length ≤ n d) → x.answer.isSome = true
  /-- The call succeeds if all messages were accepted, and not otherwise. -/
  ok_iff : x.answer = some (.ok ()) ↔ ∀ d, x.acceptedOn d = ms d
  /-- It fails with the refusal of the first domain that has one. -/
  error_iff : ∀ f, x.answer = some (.error f) ↔ x.answer.isSome = true ∧
    ∃ before d after r, Domain.all = before ++ d :: after ∧ (∀ e ∈ before, x.refusalOn e = none) ∧
      x.refusalOn d = some r ∧ f = ⟨.unexpected, r.message⟩

/-- A write that breaks a rule is answered at once. -/
theorem answer_of_violation {x : Dispatch σ} {v : Violation} (hv : x.write.violation = some v) :
    x.answer = some (.error (.ofViolation v)) := by
  simp only [answer, hv]

/-- **A valid write is answered when all domains are settled**, with the result of the
    propagation. -/
theorem answer_eq_some_iff {x : Dispatch σ} (hv : x.write.violation = none)
    {a : Except Failure Unit} : x.answer = some a ↔
      (∀ d, x.propagation.settled d = true) ∧ x.propagation.result = a := by
  simp only [answer, hv]
  rw [← Domain.forall_mem_all, ← List.all_eq_true]
  split
  · next hall => rw [Option.some.injEq, and_iff_right hall]
  · next hall => exact ⟨nofun, fun h => absurd h.1 hall⟩

namespace Sound

variable {ms : Domain → List Message} {n : Domain → Nat} {x : Dispatch σ}

/-- A domain is settled if it was refused a message or has handed over all of them. -/
theorem settled_iff (h : Sound ms n x) (d : Domain) :
    x.propagation.settled d = true ↔ (x.refusalOn d).isSome = true ∨ x.acceptedOn d = ms d := by
  rw [Propagation.settled, Bool.or_eq_true, List.isEmpty_iff, (h.keeps d).left_eq_nil_iff,
    (h.keeps d).refusal]
  exact Iff.rfl

/-- Where all messages were accepted, none was refused. -/
theorem refusalOn_eq_none (h : Sound ms n x) {d : Domain} (hd : x.acceptedOn d = ms d) :
    x.refusalOn d = none := by
  have hkeeps := h.keeps d
  rw [hkeeps.left_eq_nil_iff.mpr hd] at hkeeps
  exact hkeeps.refusal.symm.trans hkeeps.refusal_eq_none

/-- **The result is that of the refusals.** -/
theorem result_eq (h : Sound ms n x) : x.propagation.result =
    match Domain.all.findSome? x.refusalOn with
    | some r => .error ⟨.unexpected, r.message⟩
    | none => .ok () := by
  have hrefused : x.propagation.refused = x.refusalOn := funext fun d => (h.keeps d).refusal
  rw [Propagation.result, Propagation.outcome, hrefused]
  cases Domain.all.findSome? x.refusalOn with
  | none => rfl
  | some r => rfl

theorem result_eq_ok_iff (h : Sound ms n x) :
    x.propagation.result = .ok () ↔ ∀ d, x.refusalOn d = none := by
  rw [h.result_eq, ← Domain.forall_mem_all, ← List.findSome?_eq_none_iff]
  cases Domain.all.findSome? x.refusalOn with
  | none => exact ⟨fun _ => rfl, fun _ => rfl⟩
  | some r => exact ⟨nofun, nofun⟩

theorem result_eq_error_iff (h : Sound ms n x) (f : Failure) :
    x.propagation.result = .error f ↔
      ∃ before d after r, Domain.all = before ++ d :: after ∧ (∀ e ∈ before, x.refusalOn e = none) ∧
        x.refusalOn d = some r ∧ f = ⟨.unexpected, r.message⟩ := by
  rw [h.result_eq]
  constructor
  · intro hf
    cases hr : Domain.all.findSome? x.refusalOn with
    | none =>
      rw [hr] at hf
      cases hf
    | some r =>
      rw [hr] at hf
      cases hf
      obtain ⟨before, d, after, hsplit, hd, hbefore⟩ := List.findSome?_eq_some_iff.mp hr
      exact ⟨before, d, after, r, hsplit, hbefore, hd, rfl⟩
  · rintro ⟨before, d, after, r, hsplit, hbefore, hr, rfl⟩
    rw [List.findSome?_eq_some_iff.mpr ⟨before, d, after, hsplit, hr, hbefore⟩]

/-- **The invariant accounts for everything the caller gets.** -/
theorem accounted (h : Sound ms n x) (hv : x.write.violation = none) : Accounted ms n x := by
  have hanswer {a : Except Failure Unit} := answer_eq_some_iff (a := a) hv
  have hisSome : x.answer.isSome = true ↔ ∀ d, x.propagation.settled d = true := by
    rw [Option.isSome_iff_exists]
    exact ⟨fun ⟨_, ha⟩ => (hanswer.mp ha).1, fun hs => ⟨_, hanswer.mpr ⟨hs, rfl⟩⟩⟩
  exact {
    trail := fun d => (h.keeps d).trail
    topics := h.topics
    answered_iff := by
      rw [hisSome]
      exact forall_congr' h.settled_iff
    answered := by
      intro hn
      rw [hisSome]
      intro d
      rw [Propagation.settled, Bool.or_eq_true, List.isEmpty_iff]
      exact (h.keeps d).done (hn d)
    ok_iff := by
      rw [hanswer, h.result_eq_ok_iff]
      constructor
      · rintro ⟨hsettled, hnone⟩ d
        rcases (h.settled_iff d).mp (hsettled d) with hd | hd
        · rw [hnone d] at hd
          cases hd
        · exact hd
      · intro hall
        exact ⟨fun d => (h.settled_iff d).mpr (.inr (hall d)),
          fun d => h.refusalOn_eq_none (hall d)⟩
    error_iff := by
      intro f
      rw [hanswer, h.result_eq_error_iff, hisSome] }

end Sound

end Dispatch

/-! ## 8. Whole calls -/

/-- **The answer of a call**: the broken rule, or the result of the hand-overs. -/
theorem Write.fst_call {σ : Type} (w : Write) (stamps : Stamps) (c : Carrier σ) (s : σ) :
    (w.call c stamps s).1 =
      match w.violation with
      | some v => .error (.ofViolation v)
      | none => ((Propagation.start (w.messages stamps)).steps c
          (Propagation.inOrder (w.messages stamps)) s).1.result := by
  cases w with
  | create request =>
    simp only [call, propagateCreate, violation, messages]
    cases request.toWrite with
    | error v => rfl
    | ok aw => exact congrArg Prod.fst (propagate_eq c _ s)
  | delete item => exact congrArg Prod.fst (propagate_eq c _ s)

namespace Dispatch

variable {σ : Type}

/-- The turns of a call that nobody interferes with, domain after domain. -/
def inOrder (w : Write) (stamps : Stamps) : List (Turn σ) :=
  (Propagation.inOrder (w.messages stamps)).map .handOver

/-- Keeping a record makes no difference to what happens. -/
theorem turns_handOver (c : Carrier σ) (x : Dispatch σ) (ds : List Domain) :
    ((x.turns c (ds.map .handOver)).propagation, (x.turns c (ds.map .handOver)).carrier) =
      x.propagation.steps c ds x.carrier := by
  induction ds generalizing x with
  | nil => rfl
  | cons d ds ih =>
    have hstep := x.propagation.step_recorded c d x.carrier x.attempts
    refine (ih (x.turn c (.handOver d))).trans ?_
    rw [Propagation.steps, ← hstep]
    rfl

/-- In a call that nobody interferes with, each domain has a turn for each of its messages. -/
theorem countP_inOrder (w : Write) (stamps : Stamps) (d : Domain) :
    (inOrder w stamps : List (Turn σ)).countP (Turn.isFor d) = (w.messages stamps d).length := by
  rw [inOrder, List.countP_map, ← Propagation.count_inOrder (w.messages stamps) d, List.count]
  rfl

/-- **A call is one of the runs**: that in which nobody interferes and the domains come in order. -/
theorem call_eq_turns (c : Carrier σ) (w : Write) (stamps : Stamps) (s : σ) :
    ((start w stamps s).turns c (inOrder w stamps)).answer = some (w.call c stamps s).1 ∧
      ((start w stamps s).turns c (inOrder w stamps)).carrier = (w.call c stamps s).2 := by
  have hturns := turns_handOver c (start w stamps s) (Propagation.inOrder (w.messages stamps))
  obtain ⟨hpropagation, hcarrier⟩ := Prod.ext_iff.mp hturns
  have hwrite : ((start w stamps s).turns c (inOrder w stamps)).write = w :=
    write_turns c (start w stamps s) (inOrder w stamps)
  refine ⟨?_, hcarrier.trans (w.snd_call stamps c s).symm⟩
  rw [w.fst_call stamps c s]
  cases hv : w.violation with
  | some v => exact answer_of_violation (by rw [hwrite]; exact hv)
  | none =>
    rw [answer_eq_some_iff (by rw [hwrite]; exact hv)]
    refine ⟨fun d => ?_, congrArg Propagation.result hpropagation⟩
    rw [Propagation.settled, Bool.or_eq_true, List.isEmpty_iff]
    exact ((sound_turns c w stamps s (inOrder w stamps)).keeps d).done
      (Nat.le_of_eq (countP_inOrder w stamps d).symm)

/-- **Refused hand-overs.** A write that breaks a rule hands over nothing, and its caller is told
    which rule. Any other is accounted for, message by message, whatever the carrier refuses, in
    whatever order the domains come, and whatever others do to the carrier meanwhile. A call that
    is made at a stroke is one of these runs. -/
theorem accounted_turns (c : Carrier σ) (w : Write) (stamps : Stamps) (s : σ) :
    (∀ ts : List (Turn σ),
      let x := (start w stamps s).turns c ts
      match w.intended stamps with
      | .error v => x.attempts = [] ∧ x.answer = some (.error ⟨.invalidInput, v.message⟩)
      | .ok ms => Accounted ms (fun d => ts.countP (Turn.isFor d)) x) ∧
    let x := (start w stamps s).turns c (inOrder w stamps)
    x.answer = some (w.call c stamps s).1 ∧ x.carrier = (w.call c stamps s).2 := by
  refine ⟨fun ts => ?_, call_eq_turns c w stamps s⟩
  have hwrite := write_turns c (start w stamps s) ts
  have hsound := sound_turns c w stamps s ts
  cases hi : w.intended stamps with
  | error v =>
    obtain ⟨hmessages, hv⟩ := Write.of_intended_error hi
    rw [hmessages] at hsound
    refine ⟨hsound.attempts_eq_nil, ?_⟩
    exact answer_of_violation (by rw [hwrite]; exact hv)
  | ok ms =>
    obtain ⟨rfl, hv⟩ := Write.of_intended_ok hi
    exact hsound.accounted (by rw [hwrite]; exact hv)

/-- The carrier goes down between two recommendations: the first stays accepted, and the caller is
    told of the product. -/
example :
    let now : Instant := ⟨⟨2024, 1, 1, by decide⟩, ⟨0, 0, 0, 0, by decide, by decide, by decide,
      by decide, by decide⟩⟩
    let lamp : Write :=
      .create ⟨7, "lamp", 3, some [⟨1, "ann", 5, "fine"⟩, ⟨2, "bob", 1, "dim"⟩], none⟩
    let c : Carrier Bool :=
      ⟨fun down topic _ _ => (if down then .error ⟨topic, "offline"⟩ else .ok (), down)⟩
    let x := (start lamp now false).turns c [.handOver .recommendation, .others fun _ => true,
      .handOver .recommendation, .handOver .review, .handOver .product]
    x.answer = some (.error
      ⟨.unexpected, "Event transport unavailable for topic 'products': offline"⟩) ∧
      Domain.all.map (fun d => ((x.acceptedOn d).length, (x.on d).length)) =
        [(0, 1), (1, 2), (0, 0)] :=
  ⟨rfl, rfl⟩

end Dispatch

end Catalogue
