import Catalogue.Pool.Basic

/-!
# A pool in use

Calls arrive at a pool and running calls end, in any order. However that goes, the pool is a line of
calls in the order of their admission: those at the front run, as many as there are workers, and the
others wait.

* `Pool.calls` -- the line; `arrive_cases` -- what becomes of a call that arrives;
* `Pool.Sound` -- the invariant: the permits that are out are those of the calls, no worker is idle
  while a call waits, and the limits are kept (`Sound.arrive_cases`: so calls are turned away if all
  places are taken);
* `Sound.calls_arrive`, `calls_finish` -- a call joins the line at its end, and may leave it from
  anywhere in front;
* `Pool.Drains` -- running calls end one after another while nothing arrives: as long as there are
  calls, one can end (`Sound.exists_drains`), and at last there are none (`calls_of_drains`);
* `Usage` -- a pool with the calls that came back, `Usage.step` -- what can happen to it;
* `Usage.Standing` -- how far a call has come, `Usage.standing_step` -- how it gets there;
* `Usage.sound_run` -- the invariant in every run; `Usage.standing_run` -- what becomes of a call is
  decided when it arrives; `Usage.back_of_drains` -- and it comes back.
-/

namespace Catalogue.Pool

variable {κ : Type}

/-- The calls in the pool, in the order of their admission. -/
def calls (p : Pool κ) : List κ := p.running ++ p.waiting

theorem length_calls (p : Pool κ) : p.calls.length = p.occupied := List.length_append

theorem calls_start_perm (p : Pool κ) (c : κ) : (p.start c).calls.Perm (c :: p.calls) := by
  rw [calls, calls, start, List.append_assoc]
  exact List.perm_middle

theorem calls_queue (p : Pool κ) (c : κ) : (p.queue c).calls = p.calls ++ [c] :=
  (List.append_assoc _ _ _).symm

/-- **What becomes of a call that arrives** is decided by the permits that are out. -/
theorem arrive_cases (limits : Limits) (p : Pool κ) (c : κ) :
    (limits.places ≤ p.admitted ∧ p.arrive limits c = (.rejected, p)) ∨
    (p.admitted < limits.places ∧ p.acquired < limits.workers ∧
      p.arrive limits c = (.started, p.start c)) ∨
    (p.admitted < limits.places ∧ limits.workers ≤ p.acquired ∧
      p.arrive limits c = (.queued, p.queue c)) := by
  unfold arrive
  split
  · next hfull => exact .inl ⟨hfull, rfl⟩
  · next hplace =>
    split
    · next hidle => exact .inr (.inl ⟨Nat.lt_of_not_le hplace, hidle, rfl⟩)
    · next hbusy => exact .inr (.inr ⟨Nat.lt_of_not_le hplace, Nat.le_of_not_lt hbusy, rfl⟩)

/-! ## 1. The invariant -/

/-- **A pool within its limits**: a call that runs holds both permits, and one that waits holds the
    permit to be there; and no worker is idle while a call waits. -/
structure Sound (limits : Limits) (p : Pool κ) : Prop where
  acquired : p.acquired = p.running.length
  admitted : p.admitted = p.occupied
  running_le : p.running.length ≤ limits.workers
  busy : p.waiting ≠ [] → p.running.length = limits.workers
  occupied_le : p.occupied ≤ limits.places

theorem sound_empty (limits : Limits) : Sound limits (empty : Pool κ) :=
  ⟨rfl, rfl, Nat.zero_le _, fun h => absurd rfl h, Nat.zero_le _⟩

namespace Sound

variable {limits : Limits} {p : Pool κ}

/-- **The workers that run no call are those with a permit left.** -/
theorem idle_add_running (h : Sound limits p) :
    p.idle limits + p.running.length = limits.workers := by
  rw [idle, h.acquired]
  exact Nat.sub_add_cancel h.running_le

/-- Where no call runs, no permit to run is out. -/
theorem idle_of_calls_eq_nil (h : Sound limits p) (hp : p.calls = []) :
    p.idle limits = limits.workers := by
  have hrunning : p.running = [] := (List.append_eq_nil_iff.mp hp).1
  have hsum := h.idle_add_running
  rwa [hrunning, List.length_nil, Nat.add_zero] at hsum

/-- Where there are calls, some of them run. -/
theorem exists_running (h : Sound limits p) (hp : p.calls ≠ []) : ∃ c, c ∈ p.running := by
  cases hr : p.running with
  | cons c rest => exact ⟨c, List.mem_cons_self⟩
  | nil =>
    have hwaiting : p.waiting ≠ [] := by
      intro hw
      exact hp (by rw [calls, hr, hw]; rfl)
    have hworkers := h.busy hwaiting
    have hpos := limits.workers_pos
    rw [hr, List.length_nil] at hworkers
    omega

/-- **The permits tell how many calls there are**: what becomes of a call is decided by their
    number. -/
theorem arrive_cases (h : Sound limits p) (c : κ) :
    (limits.places ≤ p.occupied ∧ p.arrive limits c = (.rejected, p)) ∨
    (p.occupied < limits.places ∧ p.running.length < limits.workers ∧
      p.arrive limits c = (.started, p.start c)) ∨
    (p.occupied < limits.places ∧ limits.workers ≤ p.running.length ∧
      p.arrive limits c = (.queued, p.queue c)) := by
  rw [← h.admitted, ← h.acquired]
  exact Pool.arrive_cases limits p c

/-- **A call joins the line at its end**, unless all places are taken. -/
theorem calls_arrive (h : Sound limits p) (c : κ) :
    (p.arrive limits c).2.calls =
      if limits.places ≤ p.occupied then p.calls else p.calls ++ [c] := by
  rcases h.arrive_cases c with ⟨hfull, ha⟩ | ⟨hplace, hidle, ha⟩ | ⟨hplace, hbusy, ha⟩
  · rw [ha, if_pos hfull]
  · have hwaiting : p.waiting = [] := by
      cases hw : p.waiting with
      | nil => rfl
      | cons n rest =>
        have hworkers := h.busy (by rw [hw]; exact List.cons_ne_nil n rest)
        omega
    rw [ha, if_neg (Nat.not_le_of_lt hplace), calls, calls, start, hwaiting, List.append_nil,
      List.append_nil]
  · rw [ha, if_neg (Nat.not_le_of_lt hplace)]
    exact p.calls_queue c

theorem start (h : Sound limits p) (hplace : p.occupied < limits.places)
    (hidle : p.running.length < limits.workers) (c : κ) : Sound limits (p.start c) := by
  have hlength : (p.running ++ [c]).length = p.running.length + 1 := by
    rw [List.length_append, List.length_singleton]
  have hoccupied : (p.start c).occupied = p.occupied + 1 := by
    simp only [occupied, Pool.start, hlength]
    omega
  constructor
  case acquired => rw [Pool.start, hlength, h.acquired]
  case admitted => rw [hoccupied, Pool.start, h.admitted]
  case running_le =>
    rw [Pool.start, hlength]
    exact hidle
  case busy => exact fun hw => absurd (h.busy hw) (Nat.ne_of_lt hidle)
  case occupied_le =>
    rw [hoccupied]
    exact hplace

theorem queue (h : Sound limits p) (hplace : p.occupied < limits.places)
    (hbusy : limits.workers ≤ p.running.length) (c : κ) : Sound limits (p.queue c) := by
  have hoccupied : (p.queue c).occupied = p.occupied + 1 := by
    simp only [occupied, Pool.queue, List.length_append, List.length_singleton]
    omega
  constructor
  case acquired => exact h.acquired
  case admitted => rw [hoccupied, Pool.queue, h.admitted]
  case running_le => exact h.running_le
  case busy => exact fun _ => Nat.le_antisymm h.running_le hbusy
  case occupied_le =>
    rw [hoccupied]
    exact hplace

/-- It does not matter which calls run, only how many. -/
theorem exchange {running : List κ} (h : Sound limits p)
    (hlength : running.length = p.running.length) : Sound limits { p with running } := by
  constructor
  case acquired => exact h.acquired.trans hlength.symm
  case admitted =>
    rw [occupied, hlength]
    exact h.admitted
  case running_le =>
    rw [hlength]
    exact h.running_le
  case busy => exact fun hw => hlength.trans (h.busy hw)
  case occupied_le =>
    rw [occupied, hlength]
    exact h.occupied_le

/-- **An arrival keeps the invariant.** -/
theorem arrive (h : Sound limits p) (c : κ) : Sound limits (p.arrive limits c).2 := by
  rcases h.arrive_cases c with ⟨-, ha⟩ | ⟨hplace, hidle, ha⟩ | ⟨hplace, hbusy, ha⟩
  · rw [ha]
    exact h
  · rw [ha]
    exact h.start hplace hidle c
  · rw [ha]
    exact h.queue hplace hbusy c

end Sound

section

variable [DecidableEq κ]

/-- The end of a call while no other waits: a permit to run is left. -/
theorem finish_of_nil {p : Pool κ} (c : κ) (hw : p.waiting = []) :
    p.finish c = ⟨p.acquired - 1, p.admitted - 1, p.running.erase c, []⟩ := by
  simp only [finish, hw]

/-- The end of a call while others wait: the first of them gets the permit to run. -/
theorem finish_of_cons {p : Pool κ} (c : κ) {next : κ} {rest : List κ}
    (hw : p.waiting = next :: rest) :
    p.finish c = ⟨p.acquired, p.admitted - 1, p.running.erase c ++ [next], rest⟩ := by
  simp only [finish, hw]

/-- **A call leaves the line**, and the others keep their order. -/
theorem calls_finish {p : Pool κ} {c : κ} (hc : c ∈ p.running) :
    (p.finish c).calls = p.calls.erase c := by
  rw [calls, calls, List.erase_append_left _ hc]
  cases hw : p.waiting with
  | nil => rw [finish_of_nil c hw]
  | cons next rest => rw [finish_of_cons c hw, List.append_assoc, List.singleton_append]

/-- **An end keeps the invariant.** -/
theorem Sound.finish {limits : Limits} {p : Pool κ} (h : Sound limits p) {c : κ}
    (hc : c ∈ p.running) : Sound limits (p.finish c) := by
  have hle := h.running_le
  have hocc := h.occupied_le
  have hacquired := h.acquired
  have hadmitted := h.admitted
  have herase := List.length_erase_of_mem hc
  have hpos := List.length_pos_of_mem hc
  cases hw : p.waiting with
  | nil =>
    rw [finish_of_nil c hw]
    simp only [occupied, hw, List.length_nil, Nat.add_zero] at hocc hadmitted
    constructor
    case acquired => rw [herase, hacquired]
    case admitted => rw [occupied, herase, hadmitted, List.length_nil, Nat.add_zero]
    case running_le =>
      rw [herase]
      omega
    case busy => exact fun hne => absurd rfl hne
    case occupied_le =>
      rw [occupied, herase, List.length_nil]
      omega
  | cons next rest =>
    have hworkers := h.busy (by rw [hw]; exact List.cons_ne_nil next rest)
    -- one call leaves the workers and another joins them
    have hlength : (p.running.erase c ++ [next]).length = p.running.length := by
      rw [List.length_append, List.length_singleton, herase]
      omega
    rw [finish_of_cons c hw]
    simp only [occupied, hw, List.length_cons] at hocc hadmitted
    constructor
    case acquired => rw [hlength, hacquired]
    case admitted =>
      simp only [occupied, hlength]
      omega
    case running_le =>
      rw [hlength]
      exact hle
    case busy =>
      intro _
      rw [hlength]
      exact hworkers
    case occupied_le =>
      simp only [occupied, hlength]
      omega

/-! ## 2. Draining -/

/-- Calls that end one after another, each when it runs. -/
def Drains : Pool κ → List κ → Prop
  | _, [] => True
  | p, c :: cs => c ∈ p.running ∧ Drains (p.finish c) cs

/-- Each end takes one call from the line. -/
theorem length_calls_of_drains {p : Pool κ} {cs : List κ} (h : Drains p cs) :
    (cs.foldl finish p).calls.length + cs.length = p.calls.length := by
  induction cs generalizing p with
  | nil => rfl
  | cons c cs ih =>
    obtain ⟨hc, hcs⟩ := h
    have hmem : c ∈ p.calls := List.mem_append_left _ hc
    have hpos := List.length_pos_of_mem hmem
    have hstep := ih hcs
    rw [calls_finish hc, List.length_erase_of_mem hmem] at hstep
    rw [List.foldl_cons, List.length_cons]
    omega

/-- **As many ends as there are calls empty the pool.** -/
theorem calls_of_drains {p : Pool κ} {cs : List κ} (h : Drains p cs)
    (hlength : cs.length = p.occupied) : (cs.foldl finish p).calls = [] := by
  have hcalls := length_calls_of_drains h
  rw [length_calls p, hlength] at hcalls
  exact List.eq_nil_of_length_eq_zero (by omega)

/-- **A pool can always be emptied**: as long as there are calls, one of them runs and can end. -/
theorem Sound.exists_drains {limits : Limits} {p : Pool κ} (h : Sound limits p) :
    ∃ cs, Drains p cs ∧ cs.length = p.occupied := by
  generalize hn : p.occupied = n
  induction n generalizing p with
  | zero => exact ⟨[], trivial, rfl⟩
  | succ n ih =>
    have hne : p.calls ≠ [] := by
      intro hnil
      rw [← length_calls, hnil] at hn
      cases hn
    obtain ⟨c, hc⟩ := h.exists_running hne
    have hmem : c ∈ p.calls := List.mem_append_left _ hc
    have hocc : (p.finish c).occupied = n := by
      rw [← length_calls, calls_finish hc, List.length_erase_of_mem hmem, length_calls, hn]
      rfl
    obtain ⟨cs, hcs, hlength⟩ := ih (h.finish hc) hocc
    exact ⟨c :: cs, ⟨hc, hcs⟩, by rw [List.length_cons, hlength]⟩

/-! ## 3. Runs -/

/-- What can happen to a pool. -/
inductive Event (κ : Type) where
  /-- A call arrives. -/
  | arrive (call : κ)
  /-- A running call ends. -/
  | finish (call : κ)

/-- A pool in use: the calls in it and those that came back, each with whether it ran. -/
structure Usage (κ : Type) where
  pool : Pool κ
  back : List (κ × Bool)

namespace Usage

/-- A pool that has not been used. -/
def unused : Usage κ := ⟨.empty, []⟩

/-- How far a call has come. -/
inductive Standing where
  /-- It has not arrived. -/
  | ahead
  /-- It runs, or waits for a worker. -/
  | inside
  /-- It ran and came back. -/
  | ran
  /-- It was turned away. -/
  | rejected
  deriving DecidableEq

/-- What a call ended with, once it is back: its own outcome, or the failure of a full pool. -/
def Standing.outcome {α : Type} (own : Except Failure α) : Standing → Option (Except Failure α)
  | .ran => some own
  | .rejected => some (.error full)
  | .ahead | .inside => none

/-- How far a call has come. -/
def standing (x : Usage κ) (c : κ) : Standing :=
  match x.back.lookup c with
  | some true => .ran
  | some false => .rejected
  | none => if c ∈ x.pool.calls then .inside else .ahead

/-- What an event does. A call arrives once, and ends only when it runs; else nothing happens. -/
def step (limits : Limits) (x : Usage κ) : Event κ → Usage κ
  | .arrive c =>
    if x.standing c = .ahead then
      match x.pool.arrive limits c with
      | (.rejected, pool) => ⟨pool, x.back ++ [(c, false)]⟩
      | (_, pool) => { x with pool }
    else x
  | .finish c =>
    if c ∈ x.pool.running then ⟨x.pool.finish c, x.back ++ [(c, true)]⟩ else x

/-- Event after event. -/
def run (limits : Limits) (x : Usage κ) (events : List (Event κ)) : Usage κ :=
  events.foldl (step limits) x

theorem run_append (limits : Limits) (x : Usage κ) (es es' : List (Event κ)) :
    x.run limits (es ++ es') = (x.run limits es).run limits es' := List.foldl_append

theorem lookup_back (back : List (κ × Bool)) (c c' : κ) (ran : Bool) :
    (back ++ [(c', ran)]).lookup c = (back.lookup c).or (if c = c' then some ran else none) := by
  rw [List.lookup_append]
  by_cases h : c = c'
  · simp [h]
  · have hne : (c == c') = false := beq_false_of_ne h
    simp [List.lookup_cons, hne, h]

variable {limits : Limits} {x : Usage κ} {c : κ}

theorem standing_eq_ahead_iff :
    x.standing c = .ahead ↔ x.back.lookup c = none ∧ c ∉ x.pool.calls := by
  unfold standing
  split
  · next hback => simp [hback]
  · next hback => simp [hback]
  · next hback => simp [hback]

theorem standing_eq_inside_iff :
    x.standing c = .inside ↔ x.back.lookup c = none ∧ c ∈ x.pool.calls := by
  unfold standing
  split
  · next hback => simp [hback]
  · next hback => simp [hback]
  · next hback => simp [hback]

/-- A call that ran or was turned away is among those that came back. -/
theorem exists_lookup_of_back (h : x.standing c = .ran ∨ x.standing c = .rejected) :
    ∃ ran, x.back.lookup c = some ran := by
  cases hback : x.back.lookup c with
  | some ran => exact ⟨ran, rfl⟩
  | none =>
    by_cases hc : c ∈ x.pool.calls
    · rw [standing_eq_inside_iff.mpr ⟨hback, hc⟩] at h
      rcases h with h | h
      · cases h
      · cases h
    · rw [standing_eq_ahead_iff.mpr ⟨hback, hc⟩] at h
      rcases h with h | h
      · cases h
      · cases h

/-- **A sound pool**, in which no call is twice: not in the line, and not inside and back. -/
structure Sound (limits : Limits) (x : Usage κ) : Prop where
  pool : x.pool.Sound limits
  nodup : x.pool.calls.Nodup
  inside : ∀ c ∈ x.pool.calls, x.back.lookup c = none

theorem sound_unused (limits : Limits) : Sound limits (unused : Usage κ) :=
  ⟨sound_empty limits, List.nodup_nil, fun _ h => absurd h List.not_mem_nil⟩

/-- **What an event does**: nothing; or a call that had not arrived is turned away; or it joins the
    line; or a running call leaves the line. -/
theorem Sound.step_cases (h : Sound limits x) (e : Event κ) :
    x.step limits e = x ∧ (∀ c, e = .arrive c → x.standing c ≠ .ahead) ∨
    (∃ c, e = .arrive c ∧ x.standing c = .ahead ∧ limits.places ≤ x.pool.occupied ∧
      x.step limits e = ⟨x.pool, x.back ++ [(c, false)]⟩) ∨
    (∃ c, e = .arrive c ∧ x.standing c = .ahead ∧ x.pool.occupied < limits.places ∧
      x.step limits e = ⟨(x.pool.arrive limits c).2, x.back⟩) ∨
    (∃ c, e = .finish c ∧ c ∈ x.pool.running ∧
      x.step limits e = ⟨x.pool.finish c, x.back ++ [(c, true)]⟩) := by
  cases e with
  | arrive c =>
    by_cases hahead : x.standing c = .ahead
    · rcases h.pool.arrive_cases c with ⟨hfull, ha⟩ | ⟨hplace, -, ha⟩ | ⟨hplace, -, ha⟩
      · exact .inr (.inl ⟨c, rfl, hahead, hfull, by simp only [step, if_pos hahead, ha]⟩)
      · exact .inr (.inr (.inl ⟨c, rfl, hahead, hplace, by simp only [step, if_pos hahead, ha]⟩))
      · exact .inr (.inr (.inl ⟨c, rfl, hahead, hplace, by simp only [step, if_pos hahead, ha]⟩))
    · refine .inl ⟨if_neg hahead, fun c' hc' => ?_⟩
      cases hc'
      exact hahead
  | finish c =>
    by_cases hc : c ∈ x.pool.running
    · exact .inr (.inr (.inr ⟨c, rfl, hc, if_pos hc⟩))
    · exact .inl ⟨if_neg hc, nofun⟩

/-- **An event keeps the invariant.** -/
theorem Sound.step (h : Sound limits x) (e : Event κ) : Sound limits (x.step limits e) := by
  rcases h.step_cases e with ⟨hs, -⟩ | ⟨c, -, hahead, -, hs⟩ | ⟨c, -, hahead, hplace, hs⟩ |
    ⟨c, -, hc, hs⟩
  · rw [hs]
    exact h
  · obtain ⟨-, hcalls⟩ := standing_eq_ahead_iff.mp hahead
    rw [hs]
    refine ⟨h.pool, h.nodup, fun c' hc' => ?_⟩
    have hne : c' ≠ c := fun e => hcalls (e ▸ hc')
    rw [lookup_back, h.inside c' hc', if_neg hne]
    rfl
  · obtain ⟨hback, hcalls⟩ := standing_eq_ahead_iff.mp hahead
    have hline := h.pool.calls_arrive c
    rw [if_neg (Nat.not_le_of_lt hplace)] at hline
    rw [hs]
    refine ⟨h.pool.arrive c, ?_, fun c' hc' => ?_⟩
    · rw [hline]
      exact List.nodup_append.mpr ⟨h.nodup, List.pairwise_singleton _ c,
        fun a ha b hb e => hcalls (List.mem_singleton.mp hb ▸ e ▸ ha)⟩
    · rw [hline, List.mem_append, List.mem_singleton] at hc'
      rcases hc' with hc' | rfl
      · exact h.inside c' hc'
      · exact hback
  · have hline := calls_finish hc
    rw [hs]
    refine ⟨h.pool.finish hc, ?_, fun c' hc' => ?_⟩
    · rw [hline]
      exact h.nodup.erase c
    · rw [hline, h.nodup.mem_erase_iff] at hc'
      rw [lookup_back, h.inside c' hc'.2, if_neg hc'.1]
      rfl

/-- **The invariant holds in every run.** -/
theorem Sound.run (h : Sound limits x) (events : List (Event κ)) :
    Sound limits (x.run limits events) := by
  induction events generalizing x with
  | nil => exact h
  | cons e es ih => exact ih (h.step e)

theorem sound_run (limits : Limits) (events : List (Event κ)) :
    Sound limits ((unused : Usage κ).run limits events) := (sound_unused limits).run events

/-- **How a call gets further**: on arrival it is turned away if all places are taken, and admitted
    otherwise; once it runs, it may come back. Nothing else changes how far it has come. -/
theorem standing_step (h : Sound limits x) (e : Event κ) (c : κ) :
    (x.step limits e).standing c = x.standing c ∧ (e = .arrive c → x.standing c ≠ .ahead) ∨
    (e = .arrive c ∧ x.standing c = .ahead ∧ (x.step limits e).standing c =
      if limits.places ≤ x.pool.occupied then .rejected else .inside) ∨
    (e = .finish c ∧ x.standing c = .inside ∧ (x.step limits e).standing c = .ran) := by
  rcases h.step_cases e with ⟨hs, hno⟩ | ⟨c', rfl, hahead, hfull, hs⟩ |
    ⟨c', rfl, hahead, hplace, hs⟩ | ⟨c', rfl, hc', hs⟩
  · rw [hs]
    exact .inl ⟨rfl, hno c⟩
  · by_cases hc : c = c'
    · subst hc
      obtain ⟨hback, -⟩ := standing_eq_ahead_iff.mp hahead
      refine .inr (.inl ⟨rfl, hahead, ?_⟩)
      rw [hs, if_pos hfull, standing, lookup_back, hback, if_pos rfl]
      rfl
    · refine .inl ⟨?_, fun e => absurd (Event.arrive.inj e).symm hc⟩
      rw [hs, standing, standing, lookup_back, if_neg hc, Option.or_none]
  · have hline := h.pool.calls_arrive c'
    rw [if_neg (Nat.not_le_of_lt hplace)] at hline
    by_cases hc : c = c'
    · subst hc
      obtain ⟨hback, -⟩ := standing_eq_ahead_iff.mp hahead
      refine .inr (.inl ⟨rfl, hahead, ?_⟩)
      rw [hs, if_neg (Nat.not_le_of_lt hplace), standing_eq_inside_iff, hline]
      exact ⟨hback, List.mem_append_right _ (List.mem_singleton_self c)⟩
    · refine .inl ⟨?_, fun e => absurd (Event.arrive.inj e).symm hc⟩
      rw [hs, standing, standing, hline]
      simp only [List.mem_append, List.mem_singleton, hc, or_false]
  · have hmem : c' ∈ x.pool.calls := List.mem_append_left _ hc'
    have hback := h.inside c' hmem
    by_cases hc : c = c'
    · subst hc
      refine .inr (.inr ⟨rfl, standing_eq_inside_iff.mpr ⟨hback, hmem⟩, ?_⟩)
      rw [hs, standing, lookup_back, hback, if_pos rfl]
      rfl
    · refine .inl ⟨?_, nofun⟩
      rw [hs, standing, standing, lookup_back, if_neg hc, Option.or_none, calls_finish hc']
      simp only [List.mem_erase_of_ne hc]

/-- A call is ahead until it arrives. -/
theorem standing_run_eq_ahead_iff (h : Sound limits x) (events : List (Event κ)) :
    (x.run limits events).standing c = .ahead ↔
      x.standing c = .ahead ∧ .arrive c ∉ events := by
  induction events generalizing x with
  | nil => simp [run]
  | cons e es ih =>
    have hstep : (x.step limits e).standing c = .ahead ↔
        x.standing c = .ahead ∧ e ≠ .arrive c := by
      rcases standing_step h e c with ⟨hs, hno⟩ | ⟨rfl, -, hs⟩ | ⟨rfl, hinside, hs⟩
      · rw [hs]
        exact ⟨fun ha => ⟨ha, fun he => hno he ha⟩, And.left⟩
      · rw [hs]
        split
        · exact ⟨nofun, fun hne => absurd rfl hne.2⟩
        · exact ⟨nofun, fun hne => absurd rfl hne.2⟩
      · rw [hs, hinside]
        exact ⟨nofun, nofun⟩
    refine (ih (h.step e)).trans ?_
    rw [hstep, List.mem_cons, not_or, and_assoc]
    exact and_congr_right fun _ => and_congr_left fun _ => ne_comm

/-- A call that was turned away stays out. -/
theorem standing_run_of_rejected (h : Sound limits x) (hc : x.standing c = .rejected)
    (events : List (Event κ)) : (x.run limits events).standing c = .rejected := by
  induction events generalizing x with
  | nil => exact hc
  | cons e es ih =>
    refine ih (h.step e) ?_
    rcases standing_step h e c with ⟨hs, -⟩ | ⟨-, hahead, -⟩ | ⟨-, hinside, -⟩
    · exact hs.trans hc
    · rw [hc] at hahead
      cases hahead
    · rw [hc] at hinside
      cases hinside

/-- A call that was admitted runs, and nothing else becomes of it. -/
theorem standing_run_of_admitted (h : Sound limits x)
    (hc : x.standing c = .inside ∨ x.standing c = .ran) (events : List (Event κ)) :
    (x.run limits events).standing c = .inside ∨ (x.run limits events).standing c = .ran := by
  induction events generalizing x with
  | nil => exact hc
  | cons e es ih =>
    refine ih (h.step e) ?_
    rcases standing_step h e c with ⟨hs, -⟩ | ⟨-, hahead, -⟩ | ⟨-, -, hran⟩
    · rw [hs]
      exact hc
    · rw [hahead] at hc
      rcases hc with hc | hc
      · cases hc
      · cases hc
    · exact .inr hran

/-- **What becomes of a call is decided when it arrives**: if all places are taken at that moment it
    never runs, and otherwise it is never turned away. -/
theorem standing_run (limits : Limits) (before after : List (Event κ)) (c : κ)
    (first : .arrive c ∉ before) :
    let x := (unused : Usage κ).run limits before
    let y := (unused : Usage κ).run limits (before ++ .arrive c :: after)
    if limits.places ≤ x.pool.occupied then y.standing c = .rejected
    else y.standing c = .inside ∨ y.standing c = .ran := by
  intro x y
  have hx : Sound limits x := sound_run limits before
  have hahead : x.standing c = .ahead :=
    (standing_run_eq_ahead_iff (sound_unused limits) before).mpr ⟨rfl, first⟩
  have hy : y = (x.step limits (.arrive c)).run limits after := run_append limits _ _ _
  rcases standing_step hx (.arrive c) c with ⟨-, hno⟩ | ⟨-, -, hs⟩ | ⟨hfinish, -, -⟩
  · exact absurd hahead (hno rfl)
  · split
    · next hfull =>
      rw [if_pos hfull] at hs
      rw [hy]
      exact standing_run_of_rejected (hx.step _) hs after
    · next hplace =>
      rw [if_neg hplace] at hs
      rw [hy]
      exact standing_run_of_admitted (hx.step _) (.inl hs) after
  · cases hfinish

/-- Running calls that end leave the pool as it is without the calls that came back. -/
theorem pool_run_finish (limits : Limits) (x : Usage κ) {ends : List κ}
    (hdrains : Drains x.pool ends) :
    (x.run limits (ends.map .finish)).pool = ends.foldl Pool.finish x.pool := by
  induction ends generalizing x with
  | nil => rfl
  | cons c ends ih =>
    obtain ⟨hc, hends⟩ := hdrains
    have hstep : x.step limits (.finish c) = ⟨x.pool.finish c, x.back ++ [(c, true)]⟩ := if_pos hc
    have hrest := ih (x.step limits (.finish c)) (by rw [hstep]; exact hends)
    refine hrest.trans ?_
    rw [hstep]
    rfl

/-- When nobody is inside, every call that arrived is back. -/
theorem back_of_calls_eq_nil {events : List (Event κ)}
    (hempty : ((unused : Usage κ).run limits events).pool.calls = [])
    (harrived : .arrive c ∈ events) :
    ((unused : Usage κ).run limits events).standing c = .ran ∨
      ((unused : Usage κ).run limits events).standing c = .rejected := by
  cases hc : ((unused : Usage κ).run limits events).standing c with
  | ahead =>
    have hahead := (standing_run_eq_ahead_iff (sound_unused limits) events).mp hc
    exact absurd harrived hahead.2
  | inside =>
    have hmem := (standing_eq_inside_iff.mp hc).2
    rw [hempty] at hmem
    exact absurd hmem List.not_mem_nil
  | ran => exact .inl rfl
  | rejected => exact .inr rfl

/-- **Every call comes back**, once as many calls have ended as were inside. -/
theorem back_of_drains {events : List (Event κ)} {ends : List κ}
    (hdrains : Drains ((unused : Usage κ).run limits events).pool ends)
    (hlength : ends.length = ((unused : Usage κ).run limits events).pool.occupied)
    (harrived : .arrive c ∈ events) :
    ((unused : Usage κ).run limits (events ++ ends.map .finish)).standing c = .ran ∨
      ((unused : Usage κ).run limits (events ++ ends.map .finish)).standing c = .rejected := by
  refine back_of_calls_eq_nil ?_ (List.mem_append_left _ harrived)
  rw [run_append, pool_run_finish limits _ hdrains]
  exact calls_of_drains hdrains hlength

end Usage

end

end Catalogue.Pool
