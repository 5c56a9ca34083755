import Catalogue.Pool.Batch
import Catalogue.Proofs.Pool.Run

/-!
# A batch is a pool in use

A batch decides by the durations of its calls which of them ends next. Whatever it decides, it does
nothing that a pool does not do, and it does not stop before all calls are back.

* `Batch.Shows` -- a batch shows a pool in use, in which the calls are known by their places;
* `Shows.enter`, `Shows.advance` -- the start of a call, and an end, are events of the pool;
* `exists_run` -- a whole batch is a run in which each of its calls arrives, and none stays inside;
* `Shows.outcome_resultOf`, `Shows.ran_resultOf` -- the results of a batch are those of the run;
* `idle_run` -- and in the end all workers are idle.
-/

namespace Catalogue.Pool.Batch

/-- **A batch shows a pool in use**, in which the calls are known by their places in the batch. -/
structure Shows (b : Batch) (x : Usage Nat) : Prop where
  acquired : x.pool.acquired = b.pool.acquired
  admitted : x.pool.admitted = b.pool.admitted
  running : x.pool.running = b.pool.running.map Job.index
  waiting : x.pool.waiting = b.pool.waiting.map Job.index
  back : x.back = b.returns.map fun r => (r.index, r.ran)

theorem shows_empty : Shows empty .unused := ⟨rfl, rfl, rfl, rfl, rfl⟩

/-! ## 1. One change -/

theorem map_index_erase {jobs : List Job} (hnodup : (jobs.map Job.index).Nodup) {job : Job}
    (hjob : job ∈ jobs) :
    (jobs.erase job).map Job.index = (jobs.map Job.index).erase job.index := by
  induction jobs with
  | nil => exact absurd hjob List.not_mem_nil
  | cons k jobs ih =>
    obtain ⟨hk, hnodup⟩ := List.nodup_cons.mp hnodup
    by_cases he : k = job
    · rw [he, List.erase_cons_head, List.map_cons, List.erase_cons_head]
    · have hmem : job ∈ jobs := (List.mem_cons.mp hjob).resolve_left fun e => he e.symm
      have hindex : k.index ≠ job.index := fun e => hk (e ▸ List.mem_map_of_mem hmem)
      rw [List.erase_cons_tail (by simpa using he), List.map_cons, List.map_cons,
        List.erase_cons_tail (by simpa using hindex), ih hnodup hmem]

section

variable {limits : Limits} {b : Batch}

/-- Where no call waits, the worker of a call that ends is idle. -/
theorem pool_finishJob_of_nil (job : Job) (hnone : b.pool.waiting = []) :
    (finishJob limits b job).pool =
      ⟨b.pool.acquired - 1, b.pool.admitted - 1, b.pool.running.erase job, []⟩ :=
  finish_of_nil job hnone

/-- Otherwise the call that has waited longest gets it. -/
theorem pool_finishJob_of_cons (job : Job) {next : Job} {rest : List Job}
    (hwaiting : b.pool.waiting = next :: rest) :
    (finishJob limits b job).pool =
      ⟨b.pool.acquired, b.pool.admitted - 1, b.pool.running.erase job ++ [next], rest⟩ :=
  finish_of_cons job hwaiting

end

namespace Shows

variable {limits : Limits} {b : Batch} {x : Usage Nat}

theorem occupied (h : Shows b x) : x.pool.occupied = b.pool.occupied := by
  rw [Pool.occupied, Pool.occupied, h.running, h.waiting, List.length_map, List.length_map]

/-- The time that calls still take does not matter. -/
theorem pass (h : Shows b x) : Shows b.pass x := by
  unfold Batch.pass
  split
  · exact h
  · exact h
  · refine ⟨h.acquired, h.admitted, ?_, h.waiting, h.back⟩
    rw [h.running, List.map_map]
    rfl

/-- **The end of a running call** is an event of the pool. -/
theorem finishJob (h : Shows b x) (hx : x.Sound limits) {job : Job} (hjob : job ∈ b.pool.running) :
    Shows (finishJob limits b job) (x.step limits (.finish job.index)) := by
  have hmem : job.index ∈ x.pool.running := by
    rw [h.running]
    exact List.mem_map_of_mem hjob
  have hnodup : (b.pool.running.map Job.index).Nodup := by
    rw [← h.running]
    exact hx.nodup.sublist (List.sublist_append_left _ _)
  have hstep : x.step limits (.finish job.index) =
      ⟨x.pool.finish job.index, x.back ++ [(job.index, true)]⟩ := if_pos hmem
  rw [hstep]
  have hback : x.back ++ [(job.index, true)] =
      (Batch.finishJob limits b job).returns.map fun r => (r.index, r.ran) := by
    rw [h.back, Batch.finishJob, List.map_append]
    rfl
  have hrunning : x.pool.running.erase job.index =
      (b.pool.running.erase job).map Job.index := by
    rw [h.running, map_index_erase hnodup hjob]
  have hwaiting := h.waiting
  cases hw : b.pool.waiting with
  | nil =>
    rw [hw, List.map_nil] at hwaiting
    rw [finish_of_nil _ hwaiting, h.acquired, h.admitted, hrunning]
    constructor
    case acquired => rw [pool_finishJob_of_nil job hw]
    case admitted => rw [pool_finishJob_of_nil job hw]
    case running => rw [pool_finishJob_of_nil job hw]
    case waiting => rw [pool_finishJob_of_nil job hw, List.map_nil]
    case back => exact hback
  | cons next rest =>
    rw [hw, List.map_cons] at hwaiting
    rw [finish_of_cons _ hwaiting, h.acquired, h.admitted, hrunning]
    constructor
    case acquired => rw [pool_finishJob_of_cons job hw]
    case admitted => rw [pool_finishJob_of_cons job hw]
    case running => rw [pool_finishJob_of_cons job hw, List.map_append, List.map_singleton]
    case waiting => rw [pool_finishJob_of_cons job hw]
    case back => exact hback

/-- **The start of a call** is its arrival, and perhaps its end. -/
theorem enter (h : Shows b x) (hx : x.Sound limits) (job : Job)
    (hahead : x.standing job.index = .ahead) :
    ∃ ends : List Nat, Shows (enter limits b job)
      (x.run limits (.arrive job.index :: ends.map .finish)) := by
  have hacquired := h.acquired
  have hadmitted := h.admitted
  rcases b.pool.arrive_cases limits job with ⟨hfull, hb⟩ | ⟨hplace, hidle, hb⟩ |
    ⟨hplace, hbusy, hb⟩
  · have hx' : x.pool.arrive limits job.index = (.rejected, x.pool) :=
      if_pos (by rw [hadmitted]; exact hfull)
    have hstep : x.step limits (.arrive job.index) =
        ⟨x.pool, x.back ++ [(job.index, false)]⟩ := by
      simp only [Usage.step, if_pos hahead, hx']
    refine ⟨[], ?_⟩
    have hshows : Shows (Batch.enter limits b job) (x.step limits (.arrive job.index)) := by
      rw [hstep]
      simp only [Batch.enter, hb]
      refine ⟨hacquired, hadmitted, h.running, h.waiting, ?_⟩
      rw [h.back, List.map_append]
      rfl
    exact hshows
  · have hx' : x.pool.arrive limits job.index = (.started, x.pool.start job.index) := by
      rw [Pool.arrive, if_neg (by omega), if_pos (by omega)]
    have hstep : x.step limits (.arrive job.index) =
        { x with pool := x.pool.start job.index } := by
      simp only [Usage.step, if_pos hahead, hx']
    have hshows : Shows { b with pool := b.pool.start job }
        (x.step limits (.arrive job.index)) := by
      rw [hstep]
      refine ⟨congrArg (· + 1) hacquired, congrArg (· + 1) hadmitted, ?_, h.waiting, h.back⟩
      rw [start, start, h.running, List.map_append]
      rfl
    by_cases hleft : job.left = 0
    · refine ⟨[job.index], ?_⟩
      have hdone := hshows.finishJob (hx.step _)
        (List.mem_append_right _ (List.mem_singleton_self job))
      simp only [Batch.enter, hb, if_pos hleft]
      exact hdone
    · refine ⟨[], ?_⟩
      simp only [Batch.enter, hb, if_neg hleft]
      exact hshows
  · have hx' : x.pool.arrive limits job.index = (.queued, x.pool.queue job.index) := by
      rw [Pool.arrive, if_neg (by omega), if_neg (by omega)]
    have hstep : x.step limits (.arrive job.index) =
        { x with pool := x.pool.queue job.index } := by
      simp only [Usage.step, if_pos hahead, hx']
    refine ⟨[], ?_⟩
    have hshows : Shows (Batch.enter limits b job) (x.step limits (.arrive job.index)) := by
      rw [hstep]
      simp only [Batch.enter, hb]
      refine ⟨hacquired, congrArg (· + 1) hadmitted, h.running, ?_, h.back⟩
      rw [queue, queue, h.waiting, List.map_append]
      rfl
    exact hshows

end Shows

theorem mem_of_earliest? {jobs : List Job} {job : Job} (h : earliest? jobs = some job) :
    job ∈ jobs := by
  induction jobs generalizing job with
  | nil => cases h
  | cons j jobs ih =>
    unfold earliest? at h
    split at h
    · cases h
      exact List.mem_cons_self
    · next k hk =>
      split at h
      · cases h
        exact List.mem_cons_self
      · cases h
        exact List.mem_cons_of_mem _ (ih hk)

theorem exists_earliest? {jobs : List Job} (h : jobs ≠ []) : ∃ job, earliest? jobs = some job := by
  cases jobs with
  | nil => exact absurd rfl h
  | cons j jobs =>
    unfold earliest?
    split
    · exact ⟨j, rfl⟩
    · split
      · exact ⟨_, rfl⟩
      · exact ⟨_, rfl⟩

/-- Once time has passed, one of the running calls can end. -/
theorem exists_ready {b : Batch} (h : b.pool.running ≠ []) :
    ∃ job ∈ b.pass.pool.running, job.left = 0 := by
  have hlefts : b.pool.running.map Job.left ≠ [] := fun e => h (List.map_eq_nil_iff.mp e)
  unfold pass
  split
  · next hmin => exact absurd (List.min?_eq_none_iff.mp hmin) hlefts
  · next hmin =>
    obtain ⟨job, hjob, hzero⟩ := List.mem_map.mp (List.min?_mem hmin)
    exact ⟨job, hjob, hzero⟩
  · next d _ hmin =>
    obtain ⟨job, hjob, hd⟩ := List.mem_map.mp (List.min?_mem hmin)
    refine ⟨{ job with left := job.left - d }, List.mem_map.mpr ⟨job, hjob, rfl⟩, ?_⟩
    rw [hd]
    exact Nat.sub_self d

/-- **As long as calls run, one of them ends next.** -/
theorem exists_next? {b : Batch} (h : b.pool.running ≠ []) :
    ∃ job ∈ b.pass.pool.running, b.pass.next? = some job := by
  obtain ⟨job, hjob, hzero⟩ := exists_ready h
  have hready : b.pass.pool.running.filter (fun j => j.left = 0) ≠ [] := by
    intro hnil
    have hmem : job ∈ b.pass.pool.running.filter (fun j => j.left = 0) :=
      List.mem_filter.mpr ⟨hjob, by simp [hzero]⟩
    rw [hnil] at hmem
    exact absurd hmem List.not_mem_nil
  unfold next?
  simp only
  cases hfirst : earliest? ((b.pass.pool.running.filter fun j => j.left = 0).filter
      fun j => b.pass.cursor ≤ j.index) with
  | some k =>
    have hk := (List.mem_filter.mp (mem_of_earliest? hfirst)).1
    exact ⟨k, (List.mem_filter.mp hk).1, rfl⟩
  | none =>
    obtain ⟨k, hk⟩ := exists_earliest? hready
    exact ⟨k, (List.mem_filter.mp (mem_of_earliest? hk)).1, by rw [hk]; rfl⟩

/-! ## 2. The whole batch -/

namespace Shows

variable {limits : Limits} {b : Batch} {x : Usage Nat}

/-- **An end in the batch is the end of a running call.** -/
theorem advance (h : Shows b x) (hx : x.Sound limits) (hne : x.pool.calls ≠ []) :
    ∃ c ∈ x.pool.running, Shows (b.advance limits) (x.step limits (.finish c)) := by
  obtain ⟨c, hc⟩ := hx.pool.exists_running hne
  have hrunning : b.pool.running ≠ [] := by
    intro hnil
    rw [h.running, hnil] at hc
    exact absurd hc List.not_mem_nil
  obtain ⟨job, hjob, hnext⟩ := exists_next? hrunning
  refine ⟨job.index, ?_, ?_⟩
  · rw [h.pass.running]
    exact List.mem_map_of_mem hjob
  · simp only [Batch.advance, hnext]
    exact h.pass.finishJob hx hjob

/-- **As many ends as there are calls** take all of them out of the pool. -/
theorem advances (h : Shows b x) (hx : x.Sound limits) {n : Nat} (hn : x.pool.calls.length = n) :
    ∃ ends, Drains x.pool ends ∧ ends.length = n ∧
      Shows (b.advances limits n) (x.run limits (ends.map .finish)) := by
  induction n generalizing b x with
  | zero => exact ⟨[], trivial, rfl, h⟩
  | succ n ih =>
    have hne : x.pool.calls ≠ [] := by
      intro hnil
      rw [hnil] at hn
      cases hn
    obtain ⟨c, hc, hnext⟩ := h.advance hx hne
    have hmem : c ∈ x.pool.calls := List.mem_append_left _ hc
    have hpool : (x.step limits (.finish c)).pool = x.pool.finish c := by
      rw [Usage.step, if_pos hc]
    have hlength : (x.step limits (.finish c)).pool.calls.length = n := by
      rw [hpool, calls_finish hc, List.length_erase_of_mem hmem, hn]
      rfl
    obtain ⟨ends, hdrains, hends, hshows⟩ := ih hnext (hx.step _) hlength
    rw [hpool] at hdrains
    exact ⟨c :: ends, ⟨hc, hdrains⟩, by rw [List.length_cons, hends], hshows⟩

end Shows

/-- The calls of a batch arrive one after another, under their places. -/
theorem exists_started {limits : Limits} (delays : List Nat) {i : Nat} {b : Batch}
    {events : List (Event Nat)} (h : Shows b (Usage.unused.run limits events))
    (harrived : ∀ c, .arrive c ∈ events ↔ c < i) :
    ∃ events', Shows ((jobs i delays).foldl (enter limits) b) (Usage.unused.run limits events') ∧
      ∀ c, .arrive c ∈ events' ↔ c < i + delays.length := by
  induction delays generalizing i b events with
  | nil => exact ⟨events, h, harrived⟩
  | cons d delays ih =>
    have hsound := Usage.sound_run limits events
    have hahead : (Usage.unused.run limits events).standing i = .ahead :=
      (Usage.standing_run_eq_ahead_iff (Usage.sound_unused limits) events).mpr
        ⟨rfl, fun hmem => absurd ((harrived i).mp hmem) (Nat.lt_irrefl i)⟩
    obtain ⟨ends, hentered⟩ := h.enter hsound ⟨i, d⟩ hahead
    rw [← Usage.run_append] at hentered
    have harrived' : ∀ c, .arrive c ∈ events ++ .arrive i :: ends.map .finish ↔ c < i + 1 := by
      intro c
      have hends : Event.arrive c ∉ ends.map Event.finish := by simp
      rw [List.mem_append, List.mem_cons, harrived, Event.arrive.injEq, or_iff_left hends]
      omega
    obtain ⟨events', hshows, hall⟩ := ih hentered harrived'
    refine ⟨events', hshows, fun c => ?_⟩
    rw [hall, List.length_cons]
    omega

/-- **A batch is a run of the pool**: each of its calls arrives, and in the end nobody is inside. -/
theorem exists_run (limits : Limits) (delays : List Nat) :
    ∃ events : List (Event Nat), Shows (run limits delays) (Usage.unused.run limits events) ∧
      (∀ c, .arrive c ∈ events ↔ c < delays.length) ∧
      (Usage.unused.run limits events).pool.calls = [] := by
  have hempty : Shows empty (Usage.unused.run limits []) := shows_empty
  obtain ⟨events, hstarted, harrived⟩ := exists_started delays (i := 0) hempty (fun c => by simp)
  change Shows (started limits delays) _ at hstarted
  have hsound := Usage.sound_run limits events
  have hlength : (Usage.unused.run limits events).pool.calls.length =
      (started limits delays).pool.occupied := by
    rw [length_calls]
    exact hstarted.occupied
  obtain ⟨ends, hdrains, hends, hshows⟩ := hstarted.advances hsound hlength
  rw [← Usage.run_append] at hshows
  refine ⟨events ++ ends.map Event.finish, hshows, fun c => ?_, ?_⟩
  · have hends : Event.arrive c ∉ ends.map Event.finish := by simp
    rw [List.mem_append, or_iff_left hends, harrived, Nat.zero_add]
  · rw [Usage.run_append, Usage.pool_run_finish limits _ hdrains]
    exact calls_of_drains hdrains (by rw [hends, hstarted.occupied])

/-! ## 3. Results -/

/-- How a call came back, in the batch and in the run. -/
theorem Shows.lookup_back {b : Batch} {x : Usage Nat} (h : Shows b x) (i : Nat) :
    x.back.lookup i = (b.returnOf i).map Return.ran := by
  rw [h.back, returnOf]
  induction b.returns with
  | nil => rfl
  | cons r returns ih =>
    rw [List.map_cons, List.lookup_cons, List.find?]
    by_cases hi : r.index = i
    · subst hi
      simp
    · have hne : (i == r.index) = false := beq_false_of_ne (Ne.symm hi)
      simp only [hne, hi, decide_false, ih]

/-- **A result of the batch is the outcome of the run**, for every call that is back. -/
theorem Shows.outcome_resultOf {α : Type} {b : Batch} {x : Usage Nat} (h : Shows b x) {i : Nat}
    (hback : x.standing i = .ran ∨ x.standing i = .rejected) (call : Call α) :
    (x.standing i).outcome call.outcome = some (b.resultOf i call).result := by
  have hlookup := h.lookup_back i
  cases hr : b.returnOf i with
  | none =>
    obtain ⟨ran, hran⟩ := Usage.exists_lookup_of_back hback
    rw [hran, hr] at hlookup
    cases hlookup
  | some r =>
    obtain ⟨index, ran, time, idle⟩ := r
    rw [hr] at hlookup
    cases ran with
    | true => simp [Usage.standing, hlookup, resultOf, hr, Usage.Standing.outcome]
    | false => simp [Usage.standing, hlookup, resultOf, hr, Usage.Standing.outcome]

/-- **A call of the batch ran if it ran in the run**, and was turned away otherwise. -/
theorem Shows.ran_resultOf {α : Type} {b : Batch} {x : Usage Nat} (h : Shows b x) {i : Nat}
    (hback : x.standing i = .ran ∨ x.standing i = .rejected) (call : Call α) :
    (b.resultOf i call).ran = true ↔ x.standing i = .ran := by
  have hlookup := h.lookup_back i
  cases hr : b.returnOf i with
  | none =>
    obtain ⟨ran, hran⟩ := Usage.exists_lookup_of_back hback
    rw [hran, hr] at hlookup
    cases hlookup
  | some r =>
    obtain ⟨index, ran, time, idle⟩ := r
    rw [hr] at hlookup
    cases ran with
    | true => simp [Usage.standing, hlookup, resultOf, hr]
    | false => simp [Usage.standing, hlookup, resultOf, hr]

/-- **When a batch is over, all workers are idle.** -/
theorem idle_run (limits : Limits) (delays : List Nat) :
    (run limits delays).pool.idle limits = limits.workers := by
  obtain ⟨events, hshows, -, hempty⟩ := exists_run limits delays
  have hidle := (Usage.sound_run limits events).pool.idle_of_calls_eq_nil hempty
  rwa [idle, hshows.acquired] at hidle

end Catalogue.Pool.Batch
