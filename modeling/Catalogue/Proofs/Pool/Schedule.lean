import Mathlib.Algebra.Ring.Nat
import Catalogue.Deployment
import Catalogue.Proofs.Pool.Starts

/-!
# A batch is scheduled in its order

The calls of a batch come one after another to the workers. Which of them are turned away, when the
others start and when they are back is therefore known from their durations alone, without a look at
the pool: each call has to ask the calls in front of it and no others.

* `Decided` -- calls that have been started: which of them were turned away (`decided_started`),
  `Follows` -- what comes back after that (`follows_run`);
* `ran_eq_false_iff`, `unfinished_starts` -- both said of the calls that are back in the end;
* `Scheduled` -- what can be said of the results of a batch (`scheduled_runAll`);
* `Scheduled.time_of_idle`, `Scheduled.time_of_one` -- with a worker for each call all run at once,
  and with one worker one after another; `Reading.time_read` -- the calls of a read;
* `scheduled_calls` -- all of it, for any pool.
-/

namespace Catalogue

namespace Pool.Batch

/-! ## 1. Calls that are turned away -/

section

variable {limits : Limits} {delay : Nat → Nat} {k : Nat} {b : Batch} {starts : List (Nat × Nat)}

/-- How many calls in front of the `i`-th are in the pool. -/
def ahead (b : Batch) (i : Nat) : Nat := b.pool.calls.countP fun j => j.index < i

/-- **Calls that have been started**: no time has passed, and those were turned away that found all
    places taken by calls in front of them. These are the calls that are still in the pool; a call
    that is back already takes no place. -/
structure Decided (limits : Limits) (b : Batch) : Prop where
  now : b.now = 0
  busy : ∀ j ∈ b.pool.running, 0 < j.left
  time : ∀ r ∈ b.returns, r.time = 0
  inside : ∀ j ∈ b.pool.calls, b.ahead j.index < limits.places
  rejected_iff : ∀ r ∈ b.returns, r.ran = false ↔ b.ahead r.index = limits.places

theorem decided_empty (limits : Limits) : Decided limits empty :=
  ⟨rfl, nofun, nofun, nofun, nofun⟩

/-- All calls in the pool are in front of the next one. -/
theorem Timed.ahead_self (h : Timed limits delay k b starts) : b.ahead k = b.pool.occupied := by
  rw [← length_calls, ahead, List.countP_eq_length]
  exact fun j hj => decide_eq_true (h.index_lt hj)

/-- A call that joins the pool. -/
theorem Decided.join (h : Decided limits b) (ht : Timed limits delay k b starts)
    (hplace : b.pool.occupied < limits.places) {pool : Pool Job}
    (hcalls : pool.calls.Perm (⟨k, delay k⟩ :: b.pool.calls))
    (hbusy : ∀ j ∈ pool.running, 0 < j.left) : Decided limits { b with pool } := by
  -- the call makes no difference to those in front of it
  have hahead {i : Nat} (hi : i ≤ k) : ahead { b with pool } i = b.ahead i := by
    rw [ahead, hcalls.countP_eq, List.countP_cons, if_neg (by simpa using hi), Nat.add_zero, ahead]
  refine ⟨h.now, hbusy, h.time, fun j hj => ?_, fun r hr => ?_⟩
  · rcases List.mem_cons.mp (hcalls.mem_iff.mp hj) with rfl | hold
    · rw [hahead (Nat.le_refl k), ht.ahead_self]
      exact hplace
    · rw [hahead (Nat.le_of_lt (ht.index_lt hold))]
      exact h.inside j hold
  · rw [hahead (Nat.le_of_lt (ht.return_lt hr))]
    exact h.rejected_iff r hr

/-- A call that comes back at once. -/
theorem Decided.comeBack (h : Decided limits b) {b' : Batch} (ran : Bool) (idle : Nat)
    (hran : ran = false ↔ b.ahead k = limits.places) (hpool : b'.pool = b.pool)
    (hnow : b'.now = b.now) (hreturns : b'.returns = b.returns ++ [⟨k, ran, b.now, idle⟩]) :
    Decided limits b' := by
  have hahead (i : Nat) : b'.ahead i = b.ahead i := by rw [ahead, hpool, ahead]
  refine ⟨hnow.trans h.now, fun j hj => ?_, fun r hr => ?_, fun j hj => ?_, fun r hr => ?_⟩
  · rw [hpool] at hj
    exact h.busy j hj
  · rw [hreturns] at hr
    rcases List.mem_append.mp hr with hold | hnew
    · exact h.time r hold
    · rw [List.mem_singleton.mp hnew]
      exact h.now
  · rw [hpool] at hj
    rw [hahead]
    exact h.inside j hj
  · rw [hreturns] at hr
    rw [hahead]
    rcases List.mem_append.mp hr with hold | hnew
    · exact h.rejected_iff r hold
    · rw [List.mem_singleton.mp hnew]
      exact hran

/-- **The start of a call** is decided by the calls in front of it. -/
theorem Decided.enter (h : Decided limits b) (ht : Timed limits delay k b starts) :
    Decided limits (b.enter limits ⟨k, delay k⟩) := by
  have hself := ht.ahead_self
  rcases ht.sound.arrive_cases ⟨k, delay k⟩ with ⟨hfull, hb⟩ | ⟨hplace, hidle, hb⟩ |
    ⟨hplace, hbusy, hb⟩
  · have hall : b.ahead k = limits.places := by
      rw [hself]
      exact Nat.le_antisymm ht.sound.occupied_le hfull
    simp only [Batch.enter, hb]
    exact h.comeBack false _ ⟨fun _ => hall, fun _ => rfl⟩ rfl rfl rfl
  · have hnone := ht.waiting_eq_nil hidle
    by_cases hleft : delay k = 0
    · -- it is back at once, and its worker and its place are free again
      let job : Job := ⟨k, delay k⟩
      let b' : Batch := { b with pool := b.pool.start job }
      have hnotMem : job ∉ b.pool.running := fun hmem =>
        Nat.lt_irrefl k (ht.index_lt (List.mem_append_left _ hmem))
      have herase : b'.pool.running.erase job = b.pool.running := by
        show (b.pool.running ++ [job]).erase job = b.pool.running
        rw [List.erase_append_right _ hnotMem, List.erase_cons_head, List.append_nil]
      have hpool : (finishJob limits b' job).pool = b.pool := by
        have hwaiting : b'.pool.waiting = [] := hnone
        rw [pool_finishJob_of_nil job hwaiting, herase, ← hnone]
        rfl
      simp only [Batch.enter, hb, if_pos hleft]
      refine h.comeBack true _ ⟨fun hran => Bool.noConfusion hran, fun hall => ?_⟩ hpool rfl rfl
      rw [hself] at hall
      exact absurd hall (Nat.ne_of_lt hplace)
    · simp only [Batch.enter, hb, if_neg hleft]
      refine h.join ht hplace (b.pool.calls_start_perm _) fun j hj => ?_
      rcases List.mem_append.mp hj with hold | hnew
      · exact h.busy j hold
      · rw [List.mem_singleton.mp hnew]
        exact Nat.pos_of_ne_zero hleft
  · simp only [Batch.enter, hb]
    refine h.join ht hplace ?_ h.busy
    rw [calls_queue]
    exact List.perm_append_singleton _ _

/-- **The starts of all calls** are decided so. -/
theorem Decided.enters (h : Decided limits b) (ht : Timed limits delay k b starts)
    (delays : List Nat) (hdelays : ∀ i (hi : i < delays.length), delays[i] = delay (k + i)) :
    Decided limits ((jobs k delays).foldl (Batch.enter limits) b) := by
  induction delays generalizing k b starts with
  | nil => exact h
  | cons d delays ih =>
    obtain rfl : d = delay k := hdelays 0 (Nat.succ_pos _)
    refine ih (h.enter ht) (ht.enter h.now) fun i hi => ?_
    rw [Nat.add_right_comm, Nat.add_assoc]
    exact hdelays (i + 1) (Nat.succ_lt_succ hi)

/-! ## 2. Calls that come back later -/

/-- **What comes back once all calls are started** ran, and took its time. -/
structure Follows (b b' : Batch) : Prop where
  clock : 0 < b'.now ∨ ∀ j ∈ b'.pool.running, 0 < j.left
  later : ∃ later, b'.returns = b.returns ++ later ∧ ∀ r ∈ later, r.ran = true ∧ 0 < r.time

theorem Follows.advance {b' : Batch} (h : Follows b b') (hrunning : ∃ j, j ∈ b'.pool.running) :
    Follows b (b'.advance limits) := by
  obtain ⟨job, hjob, hdone, hadvance⟩ := exists_advance limits hrunning
  have hnow : 0 < b'.pass.now := by
    rcases b'.pass_cases with ⟨hsame, hready⟩ | ⟨d, hd, -, hpass⟩
    · rcases h.clock with hclock | hbusy
      · rwa [hsame]
      · rw [hsame] at hjob
        have hleft := hbusy job hjob
        omega
    · rw [hpass]
      exact Nat.add_pos_right _ hd
  have hreturns : b'.pass.returns = b'.returns := by
    rcases b'.pass_cases with ⟨hsame, -⟩ | ⟨d, -, -, hpass⟩
    · rw [hsame]
    · rw [hpass]
  obtain ⟨later, hlater, hall⟩ := h.later
  let last : Return := ⟨job.index, true, b'.pass.now, (b'.pass.pool.finish job).idle limits⟩
  rw [hadvance]
  refine ⟨.inl hnow, later ++ [last], ?_, fun r hr => ?_⟩
  · rw [← List.append_assoc, ← hlater, ← hreturns]
    rfl
  · rcases List.mem_append.mp hr with hold | hnew
    · exact hall r hold
    · rw [List.mem_singleton.mp hnew]
      exact ⟨rfl, hnow⟩

theorem Follows.advances {b' : Batch} (h : Follows b b') (ht : Timed limits delay k b' starts)
    {n : Nat} (hn : b'.pool.occupied = n) : Follows b (b'.advances limits n) := by
  induction n generalizing b' starts with
  | zero => exact h
  | succ n ih =>
    have hne := calls_ne_nil hn
    have hrunning := ht.sound.exists_running hne
    refine ih (h.advance hrunning) (ht.advance hne) ?_
    have hoccupied := occupied_advance limits hrunning
    omega

end

/-! ## 3. Calls that are back -/

section

variable {limits : Limits} {delays : List Nat}

theorem decided_started (limits : Limits) (delays : List Nat) :
    Decided limits (started limits delays) :=
  (decided_empty limits).enters (timed_empty limits fun i => delays.getD i 0) delays fun i hi => by
    rw [Nat.zero_add, getD_of_lt hi]

theorem follows_run (limits : Limits) (delays : List Nat) :
    Follows (started limits delays) (run limits delays) := by
  have hself : Follows (started limits delays) (started limits delays) :=
    ⟨.inr (decided_started limits delays).busy, [], (List.append_nil _).symm, nofun⟩
  exact hself.advances (timed_started limits delays) rfl

/-- Every call comes back once. -/
theorem returns_perm (limits : Limits) (delays : List Nat) :
    ((run limits delays).returns.map Return.index).Perm (List.range delays.length) := by
  obtain ⟨htimed, hempty⟩ := timed_run limits delays
  have hplaces := htimed.places
  rw [hempty] at hplaces
  exact hplaces

theorem nodup_returns (limits : Limits) (delays : List Nat) :
    ((run limits delays).returns.map Return.index).Nodup :=
  (returns_perm limits delays).nodup_iff.mpr List.nodup_range

/-- **A call was turned away if all places were taken** by calls in front of it that took time. -/
theorem ran_eq_false_iff {r : Return} (hr : r ∈ (run limits delays).returns) :
    (r.ran = false ↔ ((run limits delays).returns.countP fun r' =>
      r'.index < r.index ∧ r'.ran = true ∧ 0 < r'.time) = limits.places) ∧
    (r.ran = false → r.time = 0) := by
  have hdecided := decided_started limits delays
  obtain ⟨later, hlater, hall⟩ := (follows_run limits delays).later
  let a := started limits delays
  -- the calls that come back later are those that were in the pool
  have hinside : (later.map Return.index).Perm (a.pool.calls.map Job.index) := by
    have hplaces := (timed_started limits delays).places.trans (returns_perm limits delays).symm
    rw [hlater, List.map_append] at hplaces
    exact ((List.perm_append_left_iff _).mp (List.perm_append_comm.trans hplaces)).symm
  have hcount (i : Nat) : ((run limits delays).returns.countP fun r' =>
      r'.index < i ∧ r'.ran = true ∧ 0 < r'.time) = a.ahead i := by
    have hatOnce : a.returns.countP (fun r' => r'.index < i ∧ r'.ran = true ∧ 0 < r'.time) = 0 := by
      refine List.countP_eq_zero.mpr fun r' hr' => ?_
      have htime := hdecided.time r' hr'
      simp [htime]
    have hlate : later.countP (fun r' => r'.index < i ∧ r'.ran = true ∧ 0 < r'.time) =
        later.countP fun r' => r'.index < i := by
      refine List.countP_congr fun r' hr' => ?_
      simp [hall r' hr']
    have hindex := hinside.countP_eq fun j => decide (j < i)
    rw [List.countP_map, List.countP_map] at hindex
    rw [hlater, List.countP_append, hatOnce, hlate, Nat.zero_add]
    exact hindex
  rw [hcount]
  rw [hlater] at hr
  rcases List.mem_append.mp hr with hold | hnew
  · exact ⟨hdecided.rejected_iff r hold, fun _ => hdecided.time r hold⟩
  · have hran := (hall r hnew).1
    obtain ⟨j, hj, hindex⟩ := List.mem_map.mp (hinside.mem_iff.mp (List.mem_map_of_mem hnew))
    have hplace := hdecided.inside j hj
    rw [hindex] at hplace
    rw [hran]
    exact ⟨⟨nofun, fun hfull => absurd hfull (Nat.ne_of_lt hplace)⟩, nofun⟩

/-- The calls that are back and ran are those that started, each after its time. -/
theorem map_starts_perm (limits : Limits) (delays : List Nat) :
    ((starts limits delays).map fun (i, start) => (i, start + delays.getD i 0)).Perm
      (((run limits delays).returns.filter Return.ran).map fun r => (r.index, r.time)) := by
  obtain ⟨htimed, hempty⟩ := timed_run limits delays
  have hrunning : (run limits delays).pool.running = [] := (List.append_eq_nil_iff.mp hempty).1
  refine (List.perm_ext_iff_of_nodup (.of_map Prod.fst ?_) (.of_map Prod.fst ?_)).mpr ?_
  · rw [List.map_map]
    exact htimed.nodup
  · rw [List.map_map]
    exact (nodup_returns limits delays).sublist (List.filter_sublist.map Return.index)
  rintro ⟨i, time⟩
  constructor
  · intro hmem
    obtain ⟨⟨i, start⟩, hstart, heq⟩ := List.mem_map.mp hmem
    obtain ⟨rfl, rfl⟩ := Prod.mk.inj heq
    have hbegun := (htimed.begun i).mp (List.mem_map_of_mem hstart)
    rw [begun, hrunning, List.map_nil, List.nil_append] at hbegun
    obtain ⟨r, hr, rfl⟩ := List.mem_map.mp hbegun
    obtain ⟨start', hstart', htime, -⟩ :=
      htimed.back r (List.mem_filter.mp hr).1 (List.mem_filter.mp hr).2
    obtain rfl := htimed.start_unique hstart hstart'
    exact List.mem_map.mpr ⟨r, hr, Prod.ext rfl htime.symm⟩
  · intro hmem
    obtain ⟨r, hr, heq⟩ := List.mem_map.mp hmem
    obtain ⟨rfl, rfl⟩ := Prod.mk.inj heq
    obtain ⟨start, hstart, htime, -⟩ :=
      htimed.back r (List.mem_filter.mp hr).1 (List.mem_filter.mp hr).2
    exact List.mem_map.mpr ⟨(r.index, start), hstart, Prod.ext rfl htime⟩

/-- **The starts show when calls come back.** -/
theorem unfinished_starts (limits : Limits) (delays : List Nat) (i time : Nat) :
    unfinished (fun i => delays.getD i 0) (starts limits delays) i time =
      (run limits delays).returns.countP fun r => r.index < i ∧ r.ran = true ∧ time < r.time := by
  have hcount := (map_starts_perm limits delays).countP_eq fun x => decide (x.1 < i ∧ time < x.2)
  rw [List.countP_map, List.countP_map, List.countP_filter] at hcount
  refine hcount.trans (List.countP_congr fun r _ => ?_)
  simp only [Function.comp_apply, Bool.and_eq_true, decide_eq_true_eq]
  tauto

/-! ## 4. Results -/

/-- A call that came back is found under its place. -/
theorem returnOf_eq {r : Return} (hr : r ∈ (run limits delays).returns) :
    (run limits delays).returnOf r.index = some r := by
  cases hfind : (run limits delays).returnOf r.index with
  | none =>
    have hnone := List.find?_eq_none.mp hfind r hr
    simp at hnone
  | some r' =>
    have hindex : r'.index = r.index := by simpa using List.find?_some hfind
    have hmem := List.mem_of_find?_eq_some hfind
    rw [List.inj_on_of_nodup_map (nodup_returns limits delays) hmem hr hindex]

/-- Every call has a result, and it says how the call came back. -/
theorem exists_return (limits : Limits) {delays : List Nat} {i : Nat} (hi : i < delays.length) :
    ∃ r ∈ (run limits delays).returns, r.index = i ∧ ∀ {α : Type} (call : Call α),
      ((run limits delays).resultOf i call).ran = r.ran ∧
      ((run limits delays).resultOf i call).time = r.time ∧
      ((run limits delays).resultOf i call).result =
        if r.ran then call.outcome else .error full := by
  have hmem := (returns_perm limits delays).mem_iff.mpr (List.mem_range.mpr hi)
  obtain ⟨r, hr, rfl⟩ := List.mem_map.mp hmem
  refine ⟨r, hr, rfl, fun call => ?_⟩
  have hfind := returnOf_eq hr
  obtain ⟨index, ran, time, idle⟩ := r
  simp only [resultOf, hfind]
  cases ran with
  | true => exact ⟨rfl, rfl, rfl⟩
  | false => exact ⟨rfl, rfl, rfl⟩

/-- The call of one place is counted apart from those in front of it. -/
theorem countP_lt_succ {r : Return} (hr : r ∈ (run limits delays).returns) (p : Return → Prop)
    [DecidablePred p] :
    ((run limits delays).returns.countP fun r' => r'.index < r.index + 1 ∧ p r') =
      ((run limits delays).returns.countP fun r' => r'.index < r.index ∧ p r') +
        if p r then 1 else 0 := by
  have hapart := List.perm_cons_erase hr
  have hnodup : ((r :: (run limits delays).returns.erase r).map Return.index).Nodup :=
    (hapart.map Return.index).nodup_iff.mp (nodup_returns limits delays)
  obtain ⟨hother, -⟩ := List.nodup_cons.mp hnodup
  have hrest : ((run limits delays).returns.erase r).countP
      (fun r' => r'.index < r.index + 1 ∧ p r') =
        ((run limits delays).returns.erase r).countP fun r' => r'.index < r.index ∧ p r' := by
    refine List.countP_congr fun r' hr' => ?_
    have hne : r'.index ≠ r.index := fun e => hother (e ▸ List.mem_map_of_mem hr')
    simp only [decide_eq_true_eq]
    refine and_congr_left fun _ => ?_
    omega
  rw [hapart.countP_eq, hapart.countP_eq, List.countP_cons, List.countP_cons, hrest]
  simp

end

end Pool.Batch

namespace Pool

variable {α : Type}

theorem length_runAll (limits : Limits) (calls : List (Call α)) :
    (runAll limits calls).length = calls.length := by
  simp [runAll]

theorem getElem?_runAll (limits : Limits) (calls : List (Call α)) (i : Nat) :
    (runAll limits calls)[i]? = calls[i]?.map fun call =>
      (Batch.run limits (calls.map Call.delay)).resultOf i call := by
  simp only [runAll, List.getElem?_map, List.getElem?_zipIdx, Nat.zero_add]
  cases calls[i]? with
  | none => rfl
  | some call => rfl

/-- Every result is that of a call which came back. -/
theorem exists_return_of_getElem? {limits : Limits} {calls : List (Call α)} {i : Nat} {x : Result α}
    (hx : (runAll limits calls)[i]? = some x) :
    ∃ call, ∃ r ∈ (Batch.run limits (calls.map Call.delay)).returns, calls[i]? = some call ∧
      r.index = i ∧ x.ran = r.ran ∧ x.time = r.time ∧
      x.result = if r.ran then call.outcome else .error full := by
  rw [getElem?_runAll] at hx
  obtain ⟨call, hcall, rfl⟩ := Option.map_eq_some_iff.mp hx
  have hlt : i < (calls.map Call.delay).length := by
    rw [List.length_map]
    exact (List.getElem?_eq_some_iff.mp hcall).1
  obtain ⟨r, hr, hindex, hresult⟩ := Batch.exists_return limits hlt
  exact ⟨call, r, hr, hcall, hindex, hresult call⟩

/-- **The results of the first calls** against the calls that came back. -/
theorem countP_take_runAll (limits : Limits) (calls : List (Call α)) (p : Bool → Nat → Prop)
    [∀ ran time, Decidable (p ran time)] {i : Nat} (hi : i ≤ calls.length) :
    ((runAll limits calls).take i).countP (fun x => p x.ran x.time) =
      (Batch.run limits (calls.map Call.delay)).returns.countP fun r =>
        r.index < i ∧ p r.ran r.time := by
  induction i with
  | zero => simp
  | succ i ih =>
    have hlt : i < (runAll limits calls).length := by
      rw [length_runAll]
      exact hi
    obtain ⟨call, r, hr, -, rfl, hran, htime, -⟩ :=
      exists_return_of_getElem? (List.getElem?_eq_getElem hlt)
    rw [List.take_add_one, List.countP_append, ih (Nat.le_of_succ_le hi),
      Batch.countP_lt_succ hr fun r => p r.ran r.time, List.getElem?_eq_getElem hlt,
      Option.toList_some, List.countP_singleton, hran, htime]
    simp

/-- **A batch that is scheduled in its order**, with the starts of the calls that were not turned
    away. -/
structure Scheduled (limits : Limits) (calls : List (Call α)) (results : List (Result α))
    (starts : List (Nat × Nat)) : Prop where
  length : results.length = calls.length
  /-- A call is turned away if all places are taken by calls in front of it: by those that are not
      turned away themselves, and take time. -/
  rejected_iff : ∀ (i : Nat) (x : Result α), results[i]? = some x → (x.ran = false ↔
    ((results.take i).countP fun y => y.ran = true ∧ 0 < y.time) = limits.places)
  rejected : ∀ (i : Nat) (x : Result α), results[i]? = some x → x.ran = false →
    x.result = .error full ∧ x.time = 0
  /-- The others start, in the order of the batch. -/
  started_iff : ∀ i, i ∈ starts.map Prod.fst ↔
    ∃ x : Result α, results[i]? = some x ∧ x.ran = true
  order : starts.Pairwise fun a b => a.1 < b.1 ∧ a.2 ≤ b.2
  /-- Each starts at the earliest time at which the calls in front of it leave a worker. -/
  least : ∀ i start, (i, start) ∈ starts → IsLeast {time |
    ((results.take i).countP fun y => y.ran = true ∧ time < y.time) < limits.workers} start
  /-- It is back after its own time, and with its own result. -/
  back : ∀ (i start : Nat) (call : Call α) (x : Result α), (i, start) ∈ starts →
    calls[i]? = some call → results[i]? = some x →
      x.result = call.outcome ∧ x.time = start + call.delay

/-- The call of a start ran, and was back after its time. -/
theorem of_mem_starts {limits : Limits} {calls : List (Call α)} {i start : Nat}
    (hstart : (i, start) ∈ Batch.starts limits (calls.map Call.delay)) :
    ∃ (call : Call α) (x : Result α), calls[i]? = some call ∧ (runAll limits calls)[i]? = some x ∧
      x.ran = true ∧ x.result = call.outcome ∧ x.time = start + call.delay := by
  have hmem := (Batch.map_starts_perm limits (calls.map Call.delay)).mem_iff.mp
    (List.mem_map_of_mem hstart)
  obtain ⟨r, hr, heq⟩ := List.mem_map.mp hmem
  obtain ⟨hr, hran⟩ := List.mem_filter.mp hr
  obtain ⟨rfl, htime⟩ := Prod.mk.inj heq
  have hlt : r.index < calls.length := by
    have hplace := (Batch.returns_perm limits (calls.map Call.delay)).mem_iff.mp
      (List.mem_map_of_mem hr)
    rwa [List.mem_range, List.length_map] at hplace
  have hx := getElem?_runAll limits calls r.index
  rw [List.getElem?_eq_getElem hlt, Option.map_some] at hx
  refine ⟨_, _, List.getElem?_eq_getElem hlt, hx, ?_⟩
  have hdelay : (calls.map Call.delay).getD r.index 0 = calls[r.index].delay := by
    rw [← Batch.getD_of_lt (by rwa [List.length_map]), List.getElem_map]
  have hfind := Batch.returnOf_eq hr
  obtain ⟨index, ran, time, idle⟩ := r
  obtain rfl : ran = true := hran
  simp only [Batch.resultOf, hfind, true_and]
  exact htime.trans (congrArg (start + ·) hdelay)

/-- **Calls in front of another one that are not back** are known from the results. -/
theorem unfinished_eq_countP {limits : Limits} {calls : List (Call α)} {i : Nat}
    (hi : i ≤ calls.length) (time : Nat) :
    Batch.unfinished (fun i => (calls.map Call.delay).getD i 0)
        (Batch.starts limits (calls.map Call.delay)) i time =
      ((runAll limits calls).take i).countP fun y => y.ran = true ∧ time < y.time := by
  rw [Batch.unfinished_starts]
  exact (countP_take_runAll limits calls (fun ran t => ran = true ∧ time < t) hi).symm

theorem scheduled_runAll (limits : Limits) (calls : List (Call α)) :
    Scheduled limits calls (runAll limits calls) (Batch.starts limits (calls.map Call.delay)) := by
  let starts := Batch.starts limits (calls.map Call.delay)
  obtain ⟨htimed, hempty⟩ := Batch.timed_run limits (calls.map Call.delay)
  have hleast {i start : Nat} (hstart : (i, start) ∈ starts) : IsLeast {time |
      (((runAll limits calls).take i).countP fun y => y.ran = true ∧ time < y.time) <
        limits.workers} start := by
    obtain ⟨call, -, hcall, -⟩ := of_mem_starts hstart
    have hi : i ≤ calls.length := Nat.le_of_lt (List.getElem?_eq_some_iff.mp hcall).1
    simp only [← unfinished_eq_countP hi]
    exact htimed.least i start hstart
  refine ⟨length_runAll limits calls, fun i x hx => ?_, fun i x hx hran => ?_, fun i => ⟨?_, ?_⟩,
    ?_, fun i start hstart => hleast hstart, fun i start call x hstart hcall hx => ?_⟩
  · obtain ⟨call, r, hr, hcall, rfl, hran, -⟩ := exists_return_of_getElem? hx
    rw [hran, countP_take_runAll limits calls (fun ran t => ran = true ∧ 0 < t)
      (Nat.le_of_lt (List.getElem?_eq_some_iff.mp hcall).1)]
    exact (Batch.ran_eq_false_iff hr).1
  · obtain ⟨call, r, hr, -, -, hran', htime, hresult⟩ := exists_return_of_getElem? hx
    rw [hran] at hran'
    rw [hresult, htime, ← hran']
    exact ⟨rfl, (Batch.ran_eq_false_iff hr).2 hran'.symm⟩
  · intro hi
    obtain ⟨⟨i, start⟩, hstart, rfl⟩ := List.mem_map.mp hi
    obtain ⟨-, x, -, hx, hran, -⟩ := of_mem_starts hstart
    exact ⟨x, hx, hran⟩
  · rintro ⟨x, hx, hran⟩
    obtain ⟨-, r, hr, -, rfl, hran', -⟩ := exists_return_of_getElem? hx
    refine (htimed.begun r.index).mpr (List.mem_append_right _ ?_)
    exact List.mem_map_of_mem (List.mem_filter.mpr ⟨hr, hran'.symm.trans hran⟩)
  · have horder : starts.Pairwise fun a b => a.1 < b.1 :=
      List.pairwise_map.mp (List.pairwise_append.mp htimed.order).1
    refine List.Pairwise.imp_of_mem (fun {a b} ha hb hlt => ⟨hlt, ?_⟩) horder
    -- what is free of the calls in front of the later one is free of those in front of the earlier
    refine (hleast ha).2 (Nat.lt_of_le_of_lt ?_ (hleast hb).1)
    exact (List.take_sublist_take_left (Nat.le_of_lt hlt)).countP_le
  · obtain ⟨call', x', hcall', hx', -, hresult, htime⟩ := of_mem_starts hstart
    obtain rfl := Option.some.inj (hcall'.symm.trans hcall)
    obtain rfl := Option.some.inj (hx'.symm.trans hx)
    exact ⟨hresult, htime⟩

/-! ## 5. Three calls -/

section

variable {limits : Limits} {calls : List (Call α)} {results : List (Result α)}
  {starts : List (Nat × Nat)}

/-- With a place for each call, every call runs. -/
theorem Scheduled.exists_start (h : Scheduled limits calls results starts)
    (hroom : calls.length ≤ limits.places) {i : Nat} {call : Call α} {x : Result α}
    (hcall : calls[i]? = some call) (hx : results[i]? = some x) :
    x.ran = true ∧ ∃ start, (i, start) ∈ starts ∧ x.time = start + call.delay := by
  have hi := (List.getElem?_eq_some_iff.mp hx).1
  have hran : x.ran = true := by
    refine Bool.eq_true_of_not_eq_false fun hfalse => ?_
    have hfull := (h.rejected_iff i x hx).mp hfalse
    have hle := List.countP_le_length
      (p := fun y : Result α => decide (y.ran = true ∧ 0 < y.time)) (l := results.take i)
    rw [hfull, List.length_take] at hle
    rw [h.length] at hi
    omega
  obtain ⟨⟨i, start⟩, hstart, rfl⟩ := List.mem_map.mp ((h.started_iff i).mpr ⟨x, hx, hran⟩)
  exact ⟨hran, start, hstart, (h.back i start call x hstart hcall hx).2⟩

/-- **With a worker for each call, all calls start at once.** -/
theorem Scheduled.time_of_idle (h : Scheduled limits calls results starts)
    (hworkers : calls.length ≤ limits.workers) {i : Nat} {call : Call α} {x : Result α}
    (hcall : calls[i]? = some call) (hx : results[i]? = some x) : x.time = call.delay := by
  have hi := (List.getElem?_eq_some_iff.mp hcall).1
  obtain ⟨-, start, hstart, htime⟩ :=
    h.exists_start (Nat.le_trans hworkers limits.workers_le) hcall hx
  have hfree : ((results.take i).countP fun y => y.ran = true ∧ 0 < y.time) < limits.workers := by
    have hle := List.countP_le_length
      (p := fun y : Result α => decide (y.ran = true ∧ 0 < y.time)) (l := results.take i)
    rw [List.length_take] at hle
    omega
  have hzero := (h.least i start hstart).2 hfree
  omega

/-- With one worker, a call starts as soon as all calls in front of it are back. -/
theorem Scheduled.start_le_iff (h : Scheduled limits calls results starts)
    (hone : limits.workers = 1) {i start : Nat} (hstart : (i, start) ∈ starts) (time : Nat) :
    start ≤ time ↔ ∀ (j : Nat) (y : Result α), j < i → results[j]? = some y → y.ran = true →
      y.time ≤ time := by
  have hfree (t : Nat) : ((results.take i).countP fun y => y.ran = true ∧ t < y.time) <
      limits.workers ↔ ∀ (j : Nat) (y : Result α), j < i → results[j]? = some y → y.ran = true →
        y.time ≤ t := by
    rw [hone, Nat.lt_one_iff, List.countP_eq_zero]
    constructor
    · intro hall j y hj hy hran
      have hmem : y ∈ results.take i :=
        List.mem_iff_getElem?.mpr ⟨j, (List.getElem?_take_of_lt hj).trans hy⟩
      have hnot := hall y hmem
      rw [decide_eq_true_eq] at hnot
      exact Nat.le_of_not_lt fun hlt => hnot ⟨hran, hlt⟩
    · intro hall y hmem hlate
      obtain ⟨hran, hlt⟩ := of_decide_eq_true hlate
      obtain ⟨j, hj⟩ := List.mem_iff_getElem?.mp hmem
      rw [List.getElem?_take] at hj
      split at hj
      next hji => exact Nat.not_lt_of_le (hall j y hji hj hran) hlt
      next => cases hj
  constructor
  · intro hle j y hj hy hran
    exact Nat.le_trans ((hfree start).mp (h.least i start hstart).1 j y hj hy hran) hle
  · intro hall
    exact (h.least i start hstart).2 ((hfree time).mpr hall)

/-- The durations of the first calls, one after another. -/
theorem sum_take_succ {i : Nat} {call : Call α} (hcall : calls[i]? = some call) :
    ((calls.take (i + 1)).map Call.delay).sum =
      ((calls.take i).map Call.delay).sum + call.delay := by
  rw [List.take_add_one, hcall, List.map_append, List.sum_append]
  simp

/-- **With one worker, calls start one after another.** -/
theorem Scheduled.start_of_one (h : Scheduled limits calls results starts)
    (hroom : calls.length ≤ limits.places) (hone : limits.workers = 1) {i start : Nat}
    (hstart : (i, start) ∈ starts) : start = ((calls.take i).map Call.delay).sum := by
  induction i generalizing start with
  | zero =>
    have hzero := (h.start_le_iff hone hstart 0).mpr fun j _ hj => absurd hj (Nat.not_lt_zero j)
    exact Nat.le_zero.mp hzero
  | succ i ih =>
    obtain ⟨x, hx, -⟩ := (h.started_iff (i + 1)).mp (List.mem_map_of_mem hstart)
    have hi : i < results.length :=
      Nat.lt_of_succ_lt (List.getElem?_eq_some_iff.mp hx).1
    have hlast := List.getElem?_eq_getElem hi
    have hcall := List.getElem?_eq_getElem (h.length ▸ hi)
    obtain ⟨hran, start', hstart', htime⟩ := h.exists_start hroom hcall hlast
    have hback : start = results[i].time := by
      refine Nat.le_antisymm ((h.start_le_iff hone hstart _).mpr fun j y hj hy hran => ?_) ?_
      · -- the calls in front of the last one were back when that started
        rcases Nat.lt_succ_iff_lt_or_eq.mp hj with hlt | rfl
        · have hbefore :=
            (h.start_le_iff hone hstart' start').mp (Nat.le_refl _) j y hlt hy hran
          omega
        · rw [Option.some.inj (hy.symm.trans hlast)]
      · exact (h.start_le_iff hone hstart start).mp (Nat.le_refl _) i _ (Nat.lt_succ_self i)
          hlast hran
    rw [hback, htime, ih hstart', sum_take_succ hcall]

/-- So each is back when all calls up to it have had their time. -/
theorem Scheduled.time_of_one (h : Scheduled limits calls results starts)
    (hroom : calls.length ≤ limits.places) (hone : limits.workers = 1) {i : Nat} {call : Call α}
    {x : Result α} (hcall : calls[i]? = some call) (hx : results[i]? = some x) :
    x.time = ((calls.take (i + 1)).map Call.delay).sum := by
  obtain ⟨-, start, hstart, htime⟩ := h.exists_start hroom hcall hx
  rw [htime, h.start_of_one hroom hone hstart, sum_take_succ hcall]

end

/-- When a call is back does not depend on what it brings. -/
theorem Batch.time_resultOf {β : Type} (b : Batch) (i : Nat) (call : Call α) (call' : Call β) :
    (b.resultOf i call).time = (b.resultOf i call').time := by
  unfold resultOf
  split
  · rfl
  · rfl
  · rfl

end Pool

/-- **How long a read on its own takes**: as long as the longest of its calls if there is a worker
    for each, and as long as all of them together if there is one worker, and places to wait for
    it. -/
theorem Reading.time_read (limits : Pool.Limits) (address : String) (calls : ItemCalls) :
    (3 ≤ limits.workers → (read limits address calls).time =
      max calls.product.delay (max calls.recommendations.delay calls.reviews.delay)) ∧
    (limits.workers = 1 → 3 ≤ limits.places → (read limits address calls).time =
      calls.product.delay + calls.recommendations.delay + calls.reviews.delay) := by
  let three : List (Call Unit) := calls.delays.map fun delay => ⟨delay, .ok (), []⟩
  let b := Pool.Batch.run limits calls.delays
  have h : Pool.Scheduled limits three (Pool.runAll limits three) _ :=
    Pool.scheduled_runAll limits three
  have htime {α : Type} (i : Nat) (call : Call α) (unit : Call Unit)
      (hunit : three[i]? = some unit) : ∃ x, (Pool.runAll limits three)[i]? = some x ∧
        (b.resultOf i call).time = x.time := by
    rw [Pool.getElem?_runAll, hunit]
    exact ⟨_, rfl, b.time_resultOf i call unit⟩
  obtain ⟨x, hx, hp⟩ := htime 0 calls.product _ rfl
  obtain ⟨y, hy, hr⟩ := htime 1 calls.recommendations _ rfl
  obtain ⟨z, hz, hv⟩ := htime 2 calls.reviews _ rfl
  have hread : (read limits address calls).time = max x.time (max y.time z.time) := by
    rw [← hp, ← hr, ← hv]
    rfl
  rw [hread]
  refine ⟨fun hworkers => ?_, fun hone hroom => ?_⟩
  · rw [h.time_of_idle hworkers rfl hx, h.time_of_idle hworkers rfl hy,
      h.time_of_idle hworkers rfl hz]
  · rw [h.time_of_one hroom hone rfl hx, h.time_of_one hroom hone rfl hy,
      h.time_of_one hroom hone rfl hz]
    simp only [three, ItemCalls.delays, List.map_cons, List.map_nil, List.take_succ_cons,
      List.take_zero, List.sum_cons, List.sum_nil]
    omega

/-- **Calls are scheduled in their order.** For any pool and any calls that are started together on
    it: which of them are turned away, when and in which order the others start, and when they are
    back with what, is as the calls in front of each one say; and in the end all workers are idle.
    So it is known how long a read on its own takes, whatever its calls bring. -/
theorem scheduled_calls (size queue : Nat) :
    let limits := Pool.Limits.of size queue
    (∀ {α : Type} (calls : List (Call α)),
      Pool.Scheduled limits calls (Pool.runAll limits calls)
        (Pool.Batch.starts limits (calls.map Call.delay)) ∧
      (Pool.Batch.run limits (calls.map Call.delay)).pool.idle limits = limits.workers) ∧
    ∀ {σ τ : Type} (c : Composite σ τ) (item : ItemId) (s : Composite.State σ τ),
      c.limits = limits →
      let calls := c.calls s.services item
      (3 ≤ limits.workers → (c.read item s).1.time =
        max calls.product.delay (max calls.recommendations.delay calls.reviews.delay)) ∧
      (limits.workers = 1 → 3 ≤ limits.places → (c.read item s).1.time =
        calls.product.delay + calls.recommendations.delay + calls.reviews.delay) := by
  intro limits
  refine ⟨fun calls => ⟨Pool.scheduled_runAll limits calls, Pool.Batch.idle_run limits _⟩,
    fun c item s hlimits => ?_⟩
  rw [← hlimits]
  exact Reading.time_read c.limits c.address (c.calls s.services item)

/-- A read whose product call fails, with one worker for all calls. -/
theorem scheduled_calls_one_worker :
    let c := Composite.local_ "c:1" (.of 1 2)
    let item : ItemId := ⟨7, by decide, by decide⟩
    let s : Composite.State (List Quota × Transport) LocalServices :=
      ⟨.zero, ([], .empty 2),
        ⟨⟨.empty, some ⟨.unexpected, "down"⟩, 20⟩, ⟨.empty, none, 10⟩, ⟨.empty, none, 5⟩, 0⟩, 0⟩
    c.limits = .of 1 2 ∧ c.limits.workers = 1 ∧ 3 ≤ c.limits.places ∧
      (c.read item s).1.time = 35 := by
  intro c item s
  have htime := ((scheduled_calls 1 2).2 c item s rfl).2 rfl (by decide)
  exact ⟨rfl, rfl, by decide, htime⟩

/-- Two workers and one more place: the second call ends at once and frees its place, the fourth
    waits for the worker of the third, and the fifth is turned away. -/
example :
    let calls : List (Call Unit) := [30, 0, 20, 10, 10].map fun delay => ⟨delay, .ok (), []⟩
    (Pool.runAll (.of 2 1) calls).map (fun x => (x.ran, x.time)) =
        [(true, 30), (true, 0), (true, 20), (true, 30), (false, 0)] ∧
      Pool.Batch.starts (.of 2 1) (calls.map Call.delay) = [(0, 0), (1, 0), (2, 0), (3, 20)] := by
  decide +kernel

end Catalogue
