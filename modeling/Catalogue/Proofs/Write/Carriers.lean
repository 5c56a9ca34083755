import Catalogue.Proofs.Write.Pipeline
import Catalogue.Proofs.Write.Refusals

/-!
# Carriers around carriers

A carrier may stand in front of another: it counts, it keeps a list, or it is a gate, which refuses
what it likes and passes on the rest. A write sees of a carrier only its answers. A transport behind
a gate takes what both let through, and nothing else.

* `Carrier.Alike` -- two carriers that always give the same answer (`steps_alike`: no write can tell
  them apart), `alike_recorded`, `alike_counted_recorded` -- keeping a list goes unnoticed;
* `Carrier.gated` -- a gate in front of a carrier, `limited_eq_gated` -- limits are a gate;
* `Ledger.take` -- what an attempt adds to the ledger of a transport, `Refines.publish_gated` -- the
  transport behind a gate keeps to it;
* `Refines.step_gated`, `Refines.steps_gated` -- so it does when a write hands over messages.
-/

namespace Catalogue

/-! ## 1. Carriers that cannot be told apart -/

section

variable {σ τ υ : Type}

/-- **Carriers that answer alike** from related states on. -/
def Carrier.Alike (c : Carrier σ) (c' : Carrier τ) (R : σ → τ → Prop) : Prop :=
  ∀ s s', R s s' → ∀ topic key payload,
    (c.publish s topic key payload).1 = (c'.publish s' topic key payload).1 ∧
      R (c.publish s topic key payload).2 (c'.publish s' topic key payload).2

/-- A carrier answers as it did before a list is kept. -/
theorem Carrier.alike_recorded (c : Carrier σ) : c.recorded.Alike c fun x s => x.2 = s := by
  rintro ⟨as, s⟩ _ rfl topic key payload
  exact ⟨rfl, rfl⟩

/-- It does not matter whether hand-overs are counted behind the list or in front of it. -/
theorem Carrier.alike_counted_recorded (c : Carrier σ) :
    c.recorded.counted.Alike c.counted.recorded fun x y =>
      x.1 = y.2.1 ∧ x.2.1 = y.1 ∧ x.2.2 = y.2.2 := by
  rintro ⟨m, as, s⟩ ⟨_, _, _⟩ ⟨rfl, rfl, rfl⟩ topic key payload
  cases hanswer : (c.publish s topic key payload).1 with
  | ok u => simp only [counted, recorded, hanswer, and_self]
  | error r => simp only [counted, recorded, hanswer, and_self]

/-- Carriers that answer alike do so behind counters. -/
theorem Carrier.Alike.counted {c : Carrier σ} {c' : Carrier τ} {R : σ → τ → Prop}
    (h : c.Alike c' R) : c.counted.Alike c'.counted fun x y => x.1 = y.1 ∧ R x.2 y.2 := by
  rintro ⟨m, s⟩ ⟨_, s'⟩ ⟨rfl, hs⟩ topic key payload
  obtain ⟨hanswer, hnext⟩ := h s s' hs topic key payload
  simp only [Carrier.counted, ← hanswer]
  cases (c.publish s topic key payload).1 with
  | ok u => exact ⟨rfl, rfl, hnext⟩
  | error r => exact ⟨rfl, rfl, hnext⟩

/-- Counting is not noticed either. -/
theorem Carrier.alike_counted (c : Carrier σ) : c.counted.Alike c fun x s => x.2 = s := by
  rintro ⟨m, s⟩ _ rfl topic key payload
  cases hanswer : (c.publish s topic key payload).1 with
  | ok u => simp only [counted, hanswer, and_self]
  | error r => simp only [counted, hanswer, and_self]

namespace Propagation

variable {c : Carrier σ} {c' : Carrier τ} {R : σ → τ → Prop}

theorem step_alike (h : c.Alike c' R) (p : Propagation) (d : Domain) {s : σ} {s' : τ}
    (hs : R s s') :
    (p.step c d s).1 = (p.step c' d s').1 ∧ R (p.step c d s).2 (p.step c' d s').2 := by
  rcases p.settled_or_pending d with hdone | ⟨m, rest, hr, hp⟩
  · rw [step_of_settled _ _ hdone, step_of_settled _ _ hdone]
    exact ⟨rfl, hs⟩
  · obtain ⟨hanswer, hnext⟩ := h s s' hs d.topic m.key m.payload
    rw [step_of_pending _ _ hr hp, step_of_pending _ _ hr hp, hanswer]
    exact ⟨rfl, hnext⟩

theorem steps_cons (c : Carrier σ) (d : Domain) (ds : List Domain) (p : Propagation) (s : σ) :
    p.steps c (d :: ds) s = (p.step c d s).1.steps c ds (p.step c d s).2 := rfl

/-- **No write can tell them apart.** -/
theorem steps_alike (h : c.Alike c' R) (ds : List Domain) (p : Propagation) {s : σ} {s' : τ}
    (hs : R s s') :
    (p.steps c ds s).1 = (p.steps c' ds s').1 ∧ R (p.steps c ds s).2 (p.steps c' ds s').2 := by
  induction ds generalizing p s s' with
  | nil => exact ⟨rfl, hs⟩
  | cons d ds ih =>
    obtain ⟨hp, hnext⟩ := step_alike h p d hs
    have hrest := ih (p.step c d s).1 hnext
    rw [steps_cons, steps_cons, ← hp]
    exact hrest

end Propagation

/-- **No call can tell them apart.** -/
theorem Write.call_alike {c : Carrier σ} {c' : Carrier τ} {R : σ → τ → Prop} (h : c.Alike c' R)
    (w : Write) (stamps : Stamps) {s : σ} {t : τ} (hs : R s t) :
    (w.call c stamps s).1 = (w.call c' stamps t).1 ∧ R (w.call c stamps s).2 (w.call c' stamps t).2 := by
  have hpropagate (ms : Domain → List Message) :
      (propagate c ms s).1 = (propagate c' ms t).1 ∧
        R (propagate c ms s).2 (propagate c' ms t).2 := by
    obtain ⟨hp, hnext⟩ := Propagation.steps_alike h (Propagation.inOrder ms) (.start ms) hs
    rw [propagate_eq, propagate_eq, hp]
    exact ⟨rfl, hnext⟩
  cases w with
  | create request =>
    simp only [call, propagateCreate]
    cases request.toWrite with
    | error v => exact ⟨rfl, hs⟩
    | ok w => exact hpropagate (createMessages w stamps)
  | delete item => exact hpropagate (deleteMessages item stamps)

end

/-! ## 2. Gates -/

/-- What a gate says of a record: a refusal, or nothing if the record may pass. -/
abbrev Gate (γ : Type) := γ → (topic key : String) → Bytes → Option Refusal × γ

/-- A gate in front of a carrier. -/
def Carrier.gated {γ σ : Type} (c : Carrier σ) (gate : Gate γ) : Carrier (γ × σ) where
  publish := fun (g, s) topic key payload =>
    match gate g topic key payload with
    | (some r, g) => (.error r, g, s)
    | (none, g) =>
      let (answer, s) := c.publish s topic key payload
      (answer, g, s)

/-- The gate that limits the records on some topics. -/
def Gate.quotas : Gate (List Quota) := fun quotas topic _ _ =>
  match Carrier.spend topic quotas with
  | .error r => (some r, quotas)
  | .ok quotas => (none, quotas)

/-- **Limits are a gate.** -/
theorem Carrier.limited_eq_gated {σ : Type} (c : Carrier σ) : c.limited = c.gated Gate.quotas := by
  refine congrArg Carrier.mk (funext fun state => ?_)
  obtain ⟨quotas, s⟩ := state
  funext topic key payload
  simp only [Gate.quotas]
  cases spend topic quotas with
  | error r => rfl
  | ok quotas => rfl

/-! ## 3. The transport behind a gate -/

namespace Ledger

/-- What an attempt adds: its message, if that was accepted. -/
def take (l : Ledger) (a : Attempt) : Ledger :=
  match a.answer with
  | .ok () => l.publish a.topic a.message.key a.message.payload
  | .error _ => l

/-- Attempt after attempt. -/
def takeAll (l : Ledger) (as : List Attempt) : Ledger := as.foldl take l

theorem takeAll_append (l : Ledger) (as as' : List Attempt) :
    l.takeAll (as ++ as') = (l.takeAll as).takeAll as' := List.foldl_append

/-- **The messages on a topic grow by those that were accepted there**, in their order. -/
theorem messages_takeAll (l : Ledger) (as : List Attempt) (topic : String) :
    (l.takeAll as).messages topic = l.messages topic ++
      (as.filter fun a => a.topic == topic).filterMap Attempt.accepted? := by
  induction as generalizing l with
  | nil => exact (List.append_nil _).symm
  | cons a as ih =>
    have htake : (l.take a).messages topic =
        l.messages topic ++ ([a].filter fun a => a.topic == topic).filterMap Attempt.accepted? := by
      obtain ⟨t, m, answer⟩ := a
      cases answer with
      | error r =>
        have hnone : ([⟨t, m, .error r⟩].filter fun a => a.topic == topic).filterMap
            Attempt.accepted? = [] := by
          by_cases h : t = topic
          · simp [h, Attempt.accepted?]
          · simp [h]
        rw [hnone, List.append_nil]
        rfl
      | ok u =>
        show (l.publish t m.key m.payload).messages topic = _
        rw [messages_publish]
        by_cases h : t = topic
        · simp [h, Attempt.accepted?]
        · simp [h, Ne.symm h]
    have hcons : (a :: as).filter (fun a => a.topic == topic) =
        ([a].filter fun a => a.topic == topic) ++ as.filter fun a => a.topic == topic :=
      List.filter_append [a] as
    show ((l.take a).takeAll as).messages topic = _
    rw [ih, htake, hcons, List.filterMap_append, List.append_assoc]

end Ledger

namespace Refines

variable {γ : Type} {t : Transport} {l : Ledger}

/-- **The ledger takes what passes the gate and is accepted**, and nothing else. -/
theorem publish_gated (h : Refines t l) (gate : Gate γ) (g : γ) (topic key : String)
    (payload : Bytes) :
    let x := (Carrier.transport.gated gate).publish (g, t) topic key payload
    Refines x.2.2 (l.take ⟨topic, ⟨key, payload⟩, x.1⟩) := by
  intro x
  have hx : x = (Carrier.transport.gated gate).publish (g, t) topic key payload := rfl
  simp only [Carrier.gated, Carrier.transport] at hx
  cases hgate : gate g topic key payload with
  | mk refusal g' =>
    rw [hgate] at hx
    cases refusal with
    | some r =>
      rw [hx]
      exact h
    | none =>
      have hanswer := h.publish_fst topic key payload
      have happly := h.apply (.publish topic key payload)
      simp only [Transport.apply, Ledger.apply] at happly
      simp only at hx
      rw [hx, hanswer]
      cases hf : l.failing with
      | true =>
        rw [hf, if_pos rfl] at happly
        exact happly
      | false =>
        rw [hf, if_neg Bool.false_ne_true] at happly
        exact happly

/-- **A hand-over through a gate**: nothing happens if the domain is done; otherwise its next
    message is answered, and the ledger keeps to the answer. -/
theorem step_gated (h : Refines t l) (gate : Gate γ) (g : γ) (p : Propagation) (d : Domain) :
    let x := p.step (Carrier.transport.gated gate) d (g, t)
    x = (p, g, t) ∨
    ∃ m rest answer, p.refused d = none ∧ p.pending d = m :: rest ∧
      x.1 = p.answered d rest answer ∧ Refines x.2.2 (l.take ⟨d.topic, m, answer⟩) := by
  intro x
  rcases p.settled_or_pending d with hdone | ⟨m, rest, hr, hp⟩
  · exact .inl (Propagation.step_of_settled _ _ hdone)
  · have hx : x = _ := Propagation.step_of_pending (Carrier.transport.gated gate) (g, t) hr hp
    refine .inr ⟨m, rest, _, hr, hp, congrArg Prod.fst hx, ?_⟩
    rw [hx]
    exact h.publish_gated gate g d.topic m.key m.payload

/-- **The ledger keeps to the list of attempts**, whatever a write hands over. -/
theorem steps_gated {s : List Attempt × γ × Transport} (h : Refines s.2.2 (l.takeAll s.1))
    (gate : Gate γ) (ds : List Domain) (p : Propagation) :
    let x := (p.steps (Carrier.transport.gated gate).recorded ds s).2
    Refines x.2.2 (l.takeAll x.1) := by
  induction ds generalizing p s with
  | nil => exact h
  | cons d ds ih =>
    have hstep : Refines (p.step (Carrier.transport.gated gate).recorded d s).2.2.2
        (l.takeAll (p.step (Carrier.transport.gated gate).recorded d s).2.1) := by
      rcases p.settled_or_pending d with hdone | ⟨m, rest, hr, hp⟩
      · rw [Propagation.step_of_settled _ _ hdone]
        exact h
      · rw [Propagation.step_of_pending _ _ hr hp]
        obtain ⟨as, g, t⟩ := s
        show Refines _ (l.takeAll (as ++ [_]))
        rw [Ledger.takeAll_append]
        exact publish_gated h gate g d.topic m.key m.payload
    exact ih hstep (p.step (Carrier.transport.gated gate).recorded d s).1

end Refines

end Catalogue
