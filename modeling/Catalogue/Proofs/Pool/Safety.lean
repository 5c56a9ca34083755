import Mathlib.Data.List.Perm.Subperm
import Catalogue.Proofs.Pool.Batch

/-!
# What a pool can be relied on for

However calls arrive and end, and whatever they end with, a pool keeps its limits, turns a call away
only when all places are taken, serves the others first come, first served, and is as good as new
when all calls are back.

* `Usage.gains` -- the calls that came to be in a part of the pool, in the order in which they did:
  those that were admitted, or those that got a worker;
* `gained_step`, `started_append_waiting` -- workers are given in the order of admission, in one step
  and in a whole run;
* `nodup_admitted` -- no call is admitted twice;
* `calls_run_arrive` -- calls that find places for all of them are admitted one after another;
* `Safe` -- all that can be said of the pool and its calls; `safe_run` -- in every run, and in every
  batch of calls, which is such a run.
-/

namespace Catalogue.Pool

variable {κ : Type} [DecidableEq κ]

namespace Usage

/-! ## 1. First come, first served -/

/-- The calls that an event brings into a part of the pool. -/
def gained (part : Pool κ → List κ) (limits : Limits) (x : Usage κ) (e : Event κ) : List κ :=
  (part (x.step limits e).pool).filter fun c => c ∉ part x.pool

/-- The calls that events bring into a part of the pool, in order. -/
def gains (part : Pool κ → List κ) (limits : Limits) : Usage κ → List (Event κ) → List κ
  | _, [] => []
  | x, e :: es => x.gained part limits e ++ gains part limits (x.step limits e) es

/-- Nothing comes into a part that only loses calls. -/
theorem filter_notMem_of_subset {as bs : List κ} (h : bs ⊆ as) :
    (bs.filter fun c => c ∉ as) = [] := by
  rw [List.filter_eq_nil_iff]
  intro c hc
  have hmem : c ∈ as := h hc
  simpa using hmem

/-- A call that joins a part at its end is what comes into it. -/
theorem filter_notMem_append {as bs : List κ} {c : κ} (h : bs ⊆ as) (hc : c ∉ as) :
    ((bs ++ [c]).filter fun c => c ∉ as) = [c] := by
  rw [List.filter_append, filter_notMem_of_subset h, List.nil_append,
    List.filter_cons_of_pos (by simpa using hc), List.filter_nil]

section

variable {limits : Limits} {x : Usage κ}

/-- Where the pool stays as it is, nothing comes into any part of it. -/
theorem gained_of_pool_eq (part : Pool κ → List κ) {e : Event κ}
    (h : (x.step limits e).pool = x.pool) : x.gained part limits e = [] := by
  rw [gained, h]
  exact filter_notMem_of_subset (List.Subset.refl _)

/-- A call that is admitted is the only one that is. -/
theorem gained_calls_of_arrive (h : Sound limits x) {c : κ} (hc : c ∉ x.pool.calls)
    (hplace : x.pool.occupied < limits.places) {e : Event κ}
    (hs : (x.step limits e).pool = (x.pool.arrive limits c).2) :
    x.gained Pool.calls limits e = [c] := by
  have hline := h.pool.calls_arrive c
  rw [if_neg (Nat.not_le_of_lt hplace)] at hline
  rw [gained, hs, hline]
  exact filter_notMem_append (List.Subset.refl _) hc

/-- Nobody is admitted when a call ends. -/
theorem gained_calls_of_finish {c : κ} (hc : c ∈ x.pool.running) {e : Event κ}
    (hs : (x.step limits e).pool = x.pool.finish c) : x.gained Pool.calls limits e = [] := by
  rw [gained, hs, calls_finish hc]
  exact filter_notMem_of_subset List.erase_subset

/-- **Whoever gets a worker has waited longest, or came when nobody waited**: those who get one in a
    step, and then those who wait behind them, are those who waited before, and then those who came. -/
theorem gained_step (h : Sound limits x) (e : Event κ) :
    x.gained Pool.running limits e ++ (x.step limits e).pool.waiting =
      x.pool.waiting ++ x.gained Pool.calls limits e := by
  rcases h.step_cases e with ⟨hs, -⟩ | ⟨c, -, -, -, hs⟩ | ⟨c, -, hahead, hplace, hs⟩ |
    ⟨c, -, hc, hs⟩
  · have hpool : (x.step limits e).pool = x.pool := congrArg Usage.pool hs
    rw [gained_of_pool_eq _ hpool, gained_of_pool_eq _ hpool, hpool, List.append_nil,
      List.nil_append]
  · have hpool : (x.step limits e).pool = x.pool := by rw [hs]
    rw [gained_of_pool_eq _ hpool, gained_of_pool_eq _ hpool, hpool, List.append_nil,
      List.nil_append]
  · obtain ⟨-, hcalls⟩ := standing_eq_ahead_iff.mp hahead
    have hpool : (x.step limits e).pool = (x.pool.arrive limits c).2 := congrArg Usage.pool hs
    have hrunning : c ∉ x.pool.running := fun hmem => hcalls (List.mem_append_left _ hmem)
    rw [gained_calls_of_arrive h hcalls hplace hpool, gained, hpool]
    rcases h.pool.arrive_cases c with ⟨hfull, -⟩ | ⟨-, hidle, ha⟩ | ⟨-, hbusy, ha⟩
    · exact absurd hplace (Nat.not_lt_of_le hfull)
    · -- a worker is idle, so nobody waits
      have hwaiting : x.pool.waiting = [] := by
        by_contra hne
        have hworkers := h.pool.busy hne
        omega
      rw [ha]
      simp only [start, filter_notMem_append (List.Subset.refl _) hrunning, hwaiting,
        List.append_nil, List.nil_append]
    · rw [ha]
      simp only [queue, filter_notMem_of_subset (List.Subset.refl _), List.nil_append]
  · have hpool : (x.step limits e).pool = x.pool.finish c := congrArg Usage.pool hs
    rw [gained_calls_of_finish hc hpool, List.append_nil, gained, hpool, finish]
    cases hw : x.pool.waiting with
    | nil =>
      have herase : x.pool.running.erase c ⊆ x.pool.running := List.erase_subset
      simp only [filter_notMem_of_subset herase, List.append_nil]
    | cons next rest =>
      -- the worker goes to the first in the line, who has none yet
      have hnodup := h.nodup
      rw [calls, hw, List.nodup_append] at hnodup
      have hnext : next ∉ x.pool.running := fun hmem =>
        hnodup.2.2 next hmem next List.mem_cons_self rfl
      have herase : x.pool.running.erase c ⊆ x.pool.running := List.erase_subset
      simp only [filter_notMem_append herase hnext, List.singleton_append]

/-- **Workers are given in the order of admission**, in a run from any sound pool. -/
theorem gains_append_waiting (h : Sound limits x) (events : List (Event κ)) :
    x.gains Pool.running limits events ++ (x.run limits events).pool.waiting =
      x.pool.waiting ++ x.gains Pool.calls limits events := by
  induction events generalizing x with
  | nil => exact (List.append_nil _).symm
  | cons e es ih =>
    calc x.gains Pool.running limits (e :: es) ++ (x.run limits (e :: es)).pool.waiting
      _ = x.gained Pool.running limits e ++
            ((x.step limits e).gains Pool.running limits es ++
              ((x.step limits e).run limits es).pool.waiting) := List.append_assoc _ _ _
      _ = (x.gained Pool.running limits e ++ (x.step limits e).pool.waiting) ++
            (x.step limits e).gains Pool.calls limits es := by
          rw [ih (h.step e), List.append_assoc]
      _ = x.pool.waiting ++ x.gains Pool.calls limits (e :: es) := by
          rw [gained_step h e, List.append_assoc]
          rfl

/-! ## 2. Admissions -/

/-- A call is admitted when it arrives. -/
theorem arrive_of_mem_gained (h : Sound limits x) {e : Event κ} {c : κ}
    (hc : c ∈ x.gained Pool.calls limits e) : e = .arrive c ∧ x.standing c = .ahead := by
  obtain ⟨hin, hout⟩ := List.mem_filter.mp hc
  have hin' : (x.step limits e).standing c = .inside :=
    standing_eq_inside_iff.mpr ⟨(h.step e).inside c hin, hin⟩
  have hout' : x.standing c ≠ .inside := fun hinside => by
    have hmem := (standing_eq_inside_iff.mp hinside).2
    simp [hmem] at hout
  rcases standing_step h e c with ⟨hs, -⟩ | ⟨he, hahead, -⟩ | ⟨-, hinside, -⟩
  · rw [hs] at hin'
    exact absurd hin' hout'
  · exact ⟨he, hahead⟩
  · exact absurd hinside hout'

/-- Calls that are admitted in a run had not arrived before. -/
theorem ahead_of_mem_gains (h : Sound limits x) {events : List (Event κ)} {c : κ}
    (hc : c ∈ x.gains Pool.calls limits events) : x.standing c = .ahead := by
  induction events generalizing x with
  | nil => exact absurd hc List.not_mem_nil
  | cons e es ih =>
    rcases List.mem_append.mp hc with hc | hc
    · exact (arrive_of_mem_gained h hc).2
    · have hlater := ih (h.step e) hc
      exact ((standing_run_eq_ahead_iff h [e]).mp hlater).1

/-- **No call is admitted twice.** -/
theorem nodup_admitted (h : Sound limits x) (events : List (Event κ)) :
    (x.gains Pool.calls limits events).Nodup := by
  induction events generalizing x with
  | nil => exact List.nodup_nil
  | cons e es ih =>
    refine List.nodup_append.mpr ⟨(h.step e).nodup.filter _, ih (h.step e), ?_⟩
    rintro c hc c' hc' rfl
    obtain ⟨rfl, -⟩ := arrive_of_mem_gained h hc
    have hlater := ahead_of_mem_gains (h.step _) hc'
    exact absurd (List.mem_singleton_self _)
      ((standing_run_eq_ahead_iff h [.arrive c]).mp hlater).2

/-- **Calls that find places for all of them are admitted**, one after another. -/
theorem calls_run_arrive (h : Sound limits x) {cs : List κ} (hnodup : cs.Nodup)
    (hahead : ∀ c ∈ cs, x.standing c = .ahead)
    (hroom : x.pool.occupied + cs.length ≤ limits.places) :
    (x.run limits (cs.map .arrive)).pool.calls = x.pool.calls ++ cs := by
  induction cs generalizing x with
  | nil => exact (List.append_nil _).symm
  | cons c cs ih =>
    obtain ⟨hc, hcs⟩ := List.nodup_cons.mp hnodup
    rw [List.length_cons] at hroom
    have hplace : x.pool.occupied < limits.places := by omega
    have hline := h.pool.calls_arrive c
    rw [if_neg (Nat.not_le_of_lt hplace)] at hline
    have hpool : (x.step limits (.arrive c)).pool = (x.pool.arrive limits c).2 := by
      rcases h.step_cases (.arrive c) with ⟨-, hno⟩ | ⟨c', he, -, hfull, -⟩ |
        ⟨c', he, -, -, hs⟩ | ⟨c', he, -⟩
      · exact absurd (hahead c List.mem_cons_self) (hno c rfl)
      · exact absurd hplace (Nat.not_lt_of_le hfull)
      · cases he
        rw [hs]
      · cases he
    have hrest : ∀ c' ∈ cs, (x.step limits (.arrive c)).standing c' = .ahead := by
      intro c' hc'
      refine (standing_run_eq_ahead_iff h [.arrive c]).mpr ⟨hahead c' (.tail _ hc'), fun hmem => ?_⟩
      obtain rfl := Event.arrive.inj (List.mem_singleton.mp hmem)
      exact hc hc'
    have hoccupied : (x.step limits (.arrive c)).pool.occupied = x.pool.occupied + 1 := by
      rw [← length_calls, ← length_calls, hpool, hline, List.length_append, List.length_singleton]
    have hgoal := ih (h.step (.arrive c)) hcs hrest (by omega)
    rw [hpool, hline, List.append_assoc, List.singleton_append] at hgoal
    exact hgoal

/-- A call that arrives in a run and is not turned away is among those that are admitted. -/
theorem mem_admitted (h : Sound limits x) {events : List (Event κ)} {c : κ}
    (hahead : x.standing c = .ahead)
    (hc : (x.run limits events).standing c = .inside ∨ (x.run limits events).standing c = .ran) :
    c ∈ x.gains Pool.calls limits events := by
  induction events generalizing x with
  | nil =>
    have hnow : x.standing c = .inside ∨ x.standing c = .ran := hc
    rw [hahead] at hnow
    rcases hnow with hnow | hnow
    · cases hnow
    · cases hnow
  | cons e es ih =>
    refine List.mem_append.mpr ?_
    rcases standing_step h e c with ⟨hs, -⟩ | ⟨-, -, hs⟩ | ⟨-, hinside, -⟩
    · exact .inr (ih (h.step e) (hs.trans hahead) hc)
    · by_cases hfull : limits.places ≤ x.pool.occupied
      · -- a call that was turned away would stay out
        rw [if_pos hfull] at hs
        have hout : (x.run limits (e :: es)).standing c = .rejected :=
          standing_run_of_rejected (h.step e) hs es
        rw [hout] at hc
        rcases hc with hc | hc
        · cases hc
        · cases hc
      · rw [if_neg hfull, standing_eq_inside_iff] at hs
        have hout := (standing_eq_ahead_iff.mp hahead).2
        exact .inl (List.mem_filter.mpr ⟨hs.2, by simpa using hout⟩)
    · rw [hahead] at hinside
      cases hinside

end

/-- **A pool that has room for all calls that come turns none of them away.** -/
theorem standing_ne_rejected {limits : Limits} {cs : List κ} (hroom : cs.length ≤ limits.places)
    {events : List (Event κ)} (hcalls : ∀ c, .arrive c ∈ events → c ∈ cs) (c : κ) :
    (unused.run limits events).standing c ≠ .rejected := by
  have hstart := sound_unused (κ := κ) limits
  by_cases harrived : .arrive c ∈ events
  · obtain ⟨before, after, rfl, first⟩ := List.eq_append_cons_of_mem harrived
    have hsound := sound_run limits before
    have hahead : (unused.run limits before).standing c = .ahead :=
      (standing_run_eq_ahead_iff hstart before).mpr ⟨rfl, first⟩
    have hout : c ∉ (unused.run limits before).pool.calls := (standing_eq_ahead_iff.mp hahead).2
    -- those inside and the call itself are all different, and there is room for them
    have hsubset : c :: (unused.run limits before).pool.calls ⊆ cs := by
      intro c' hc'
      refine hcalls c' ?_
      rcases List.mem_cons.mp hc' with rfl | hc'
      · exact harrived
      · have hinside : (unused.run limits before).standing c' ≠ .ahead := fun ha =>
          (standing_eq_ahead_iff.mp ha).2 hc'
        have hmem : .arrive c' ∈ before := by
          by_contra hno
          exact hinside ((standing_run_eq_ahead_iff hstart before).mpr ⟨rfl, hno⟩)
        exact List.mem_append_left _ hmem
    have hnodup : (c :: (unused.run limits before).pool.calls).Nodup :=
      List.nodup_cons.mpr ⟨hout, hsound.nodup⟩
    have hlength := (hnodup.subperm hsubset).length_le
    rw [List.length_cons, length_calls] at hlength
    have hadmitted := standing_run limits before after c first
    simp only [if_neg (show ¬limits.places ≤ (unused.run limits before).pool.occupied by omega)]
      at hadmitted
    intro hrejected
    rw [hrejected] at hadmitted
    rcases hadmitted with hin | hran
    · cases hin
    · cases hran
  · intro hrejected
    rw [(standing_run_eq_ahead_iff hstart events).mpr ⟨rfl, harrived⟩] at hrejected
    cases hrejected

/-- Workers are given in the order of admission, in a run of a pool that was not used before. -/
theorem started_append_waiting (limits : Limits) (events : List (Event κ)) :
    (unused : Usage κ).gains Pool.running limits events ++ (unused.run limits events).pool.waiting =
      unused.gains Pool.calls limits events :=
  gains_append_waiting (sound_unused limits) events

end Usage

/-! ## 3. What a pool can be relied on for -/

/-- **What can be said of a pool and its calls** at any time. -/
structure Safe (limits : Limits) (queue : Nat) (x : Usage κ) : Prop where
  /-- The limits are kept. -/
  running_le : x.pool.running.length ≤ limits.workers
  occupied_le : x.pool.occupied ≤ limits.places
  waiting_le : x.pool.waiting.length ≤ queue
  /-- The permits that are out are those of the calls that run, and of all calls inside. -/
  acquired : x.pool.acquired = x.pool.running.length
  admitted : x.pool.admitted = x.pool.occupied
  /-- A worker is idle or runs a call, and no call waits while one is idle. -/
  idle_add_running : x.pool.idle limits + x.pool.running.length = limits.workers
  busy : x.pool.waiting ≠ [] → x.pool.running.length = limits.workers
  /-- A call that arrives is turned away if all places are taken, and not otherwise. -/
  rejected_iff : ∀ c, x.standing c = .ahead →
    ((x.step limits (.arrive c)).standing c = .rejected ↔ x.pool.occupied = limits.places)
  /-- A call that is turned away leaves the pool as it is, and never gets into it. -/
  rejected : ∀ c, x.standing c = .ahead → (x.step limits (.arrive c)).standing c = .rejected →
    (x.step limits (.arrive c)).pool = x.pool ∧
    ∀ later, let y := (x.step limits (.arrive c)).run limits later
      y.standing c = .rejected ∧ c ∉ y.pool.calls
  /-- A call that ran comes back with its own result, and one that was turned away with the failure
      of a full pool. -/
  outcome : ∀ {α : Type} (own : Except Failure α) c,
    (x.standing c = .ran → (x.standing c).outcome own = some own) ∧
    (x.standing c = .rejected → (x.standing c).outcome own =
      some (.error ⟨.unexpected, "upstream worker queue is full"⟩))
  /-- When no call is inside, all workers are idle, and new calls are admitted as long as there are
      places. -/
  restored : (∀ c, x.standing c ≠ .inside) → x.pool.idle limits = limits.workers ∧
    ∀ cs : List κ, cs.Nodup → (∀ c ∈ cs, x.standing c = .ahead) → cs.length ≤ limits.places →
      (x.run limits (cs.map .arrive)).pool.calls = cs

namespace Usage

variable {limits : Limits} {x : Usage κ}

/-- A call that arrives is turned away if all places are taken. -/
theorem standing_step_arrive (h : Sound limits x) {c : κ} (hahead : x.standing c = .ahead) :
    (x.step limits (.arrive c)).standing c =
      if limits.places ≤ x.pool.occupied then .rejected else .inside := by
  rcases standing_step h (.arrive c) c with ⟨-, hno⟩ | ⟨-, -, hs⟩ | ⟨hfinish, -, -⟩
  · exact absurd hahead (hno rfl)
  · exact hs
  · cases hfinish

/-- A call that was turned away is not in the pool. -/
theorem Sound.notMem_of_rejected (h : Sound limits x) {c : κ} (hc : x.standing c = .rejected) :
    c ∉ x.pool.calls := by
  intro hmem
  rw [standing_eq_inside_iff.mpr ⟨h.inside c hmem, hmem⟩] at hc
  cases hc

/-- When no call is inside, the pool is empty. -/
theorem Sound.calls_eq_nil (h : Sound limits x) (hout : ∀ c, x.standing c ≠ .inside) :
    x.pool.calls = [] := by
  refine List.eq_nil_iff_forall_not_mem.mpr fun c hc => ?_
  exact hout c (standing_eq_inside_iff.mpr ⟨h.inside c hc, hc⟩)

/-- **The invariant is all that a pool needs to be safe.** -/
theorem Sound.safe (h : Sound limits x) {queue : Nat} (hqueue : limits.places ≤ limits.workers + queue) :
    Safe limits queue x where
  running_le := h.pool.running_le
  occupied_le := h.pool.occupied_le
  waiting_le := by
    by_cases hw : x.pool.waiting = []
    · rw [hw]
      exact Nat.zero_le _
    · have hbusy := h.pool.busy hw
      have hocc := h.pool.occupied_le
      rw [occupied, hbusy] at hocc
      omega
  acquired := h.pool.acquired
  admitted := h.pool.admitted
  idle_add_running := h.pool.idle_add_running
  busy := h.pool.busy
  rejected_iff c hahead := by
    have hocc := h.pool.occupied_le
    rw [standing_step_arrive h hahead]
    split
    · next hfull => exact ⟨fun _ => Nat.le_antisymm hocc hfull, fun _ => rfl⟩
    · next hplace =>
      refine ⟨fun hinside => ?_, fun hfull => absurd (Nat.le_of_eq hfull.symm) hplace⟩
      cases hinside
  rejected c hahead hrejected := by
    have hs := standing_step_arrive h hahead
    refine ⟨?_, fun later => ?_⟩
    · rcases h.step_cases (.arrive c) with ⟨hstep, -⟩ | ⟨_, -, -, -, hstep⟩ |
        ⟨_, -, -, hplace, -⟩ | ⟨_, he, -⟩
      · rw [hstep]
      · rw [hstep]
      · rw [hs, if_neg (Nat.not_le_of_lt hplace)] at hrejected
        cases hrejected
      · cases he
    · have hlater := standing_run_of_rejected (h.step _) hrejected later
      exact ⟨hlater, ((h.step _).run later).notMem_of_rejected hlater⟩
  outcome own c := by
    refine ⟨fun hran => ?_, fun hrejected => ?_⟩
    · rw [hran]
      rfl
    · rw [hrejected]
      rfl
  restored hout := by
    have hempty := h.calls_eq_nil hout
    have hoccupied : x.pool.occupied = 0 := by
      rw [← length_calls, hempty]
      rfl
    refine ⟨h.pool.idle_of_calls_eq_nil hempty, fun cs hnodup hahead hroom => ?_⟩
    rw [calls_run_arrive h hnodup hahead (by omega), hempty, List.nil_append]

end Usage

/-- A sum of words that stops at the largest word is no different where a pool has fewer places. -/
theorem Limits.places_saturating (size queue : Nat) :
    (Limits.of size queue).places =
      min (min ((Limits.of size queue).workers + queue) 18446744073709551615) maxPlaces := by
  have hmax : maxPlaces ≤ 18446744073709551615 := by decide
  have hplaces : (Limits.of size queue).places =
      min ((Limits.of size queue).workers + queue) maxPlaces := rfl
  omega

/-- **A pool keeps its promises.** For every size and every queue, however calls arrive and end:
    the limits are kept, calls are turned away only when all places are taken, workers are given in
    the order of admission, and all of them are there again when all calls are back. A batch of
    calls that are started together is one of these runs, and its results are those of the run. -/
theorem safe_run (size queue : Nat) :
    let limits := Limits.of size queue
    limits.workers = max 1 (min size maxPlaces) ∧
    limits.places = min (limits.workers + queue) maxPlaces ∧
    limits.places = min (min (limits.workers + queue) 18446744073709551615) maxPlaces ∧
    (∀ {κ : Type} [DecidableEq κ] (events : List (Event κ)),
      Safe limits queue (Usage.unused.run limits events) ∧
      Usage.unused.gains Pool.running limits events ++
          (Usage.unused.run limits events).pool.waiting =
        Usage.unused.gains Pool.calls limits events ∧
      (Usage.unused.gains Pool.calls limits events).Nodup) ∧
    ∀ {α : Type} (calls : List (Call α)), ∃ events : List (Event Nat),
      let x := Usage.unused.run limits events
      (∀ i, .arrive i ∈ events ↔ i < calls.length) ∧
      (∀ i call, calls[i]? = some call → ∃ r, (runAll limits calls)[i]? = some r ∧
        (x.standing i).outcome call.outcome = some r.result ∧
        (r.ran = true ↔ x.standing i = .ran)) ∧
      (Batch.run limits (calls.map Call.delay)).pool.idle limits = limits.workers := by
  intro limits
  have hqueue : limits.places ≤ limits.workers + queue := Nat.min_le_left _ _
  refine ⟨rfl, rfl, Limits.places_saturating size queue, fun events => ?_, fun calls => ?_⟩
  · have hsound := Usage.sound_run limits events
    exact ⟨hsound.safe hqueue, Usage.started_append_waiting limits events,
      Usage.nodup_admitted (Usage.sound_unused limits) events⟩
  · obtain ⟨events, hshows, harrived, hempty⟩ := Batch.exists_run limits (calls.map Call.delay)
    rw [List.length_map] at harrived
    refine ⟨events, harrived, fun i call hcall => ?_, Batch.idle_run limits _⟩
    obtain ⟨hi, -⟩ := List.getElem?_eq_some_iff.mp hcall
    have hback := Usage.back_of_calls_eq_nil hempty ((harrived i).mpr hi)
    refine ⟨(Batch.run limits (calls.map Call.delay)).resultOf i call, ?_,
      hshows.outcome_resultOf hback call, hshows.ran_resultOf hback call⟩
    simp only [runAll, List.getElem?_map, List.getElem?_zipIdx, hcall, Option.map_some,
      Nat.zero_add]

/-- One worker and one place to wait: the third call is turned away, the worker of the first goes to
    the second, and the fourth waits in its stead. -/
example :
    let x := (Usage.unused : Usage Nat).run (.of 0 1)
      [.arrive 1, .arrive 2, .arrive 3, .finish 1, .arrive 4]
    x.pool = ⟨1, 2, [2], [4]⟩ ∧ x.back = [(3, false), (1, true)] := ⟨rfl, rfl⟩

end Catalogue.Pool
