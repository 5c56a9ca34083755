import Mathlib.Data.List.Nodup
import Mathlib.Data.List.Perm.Subperm
import Mathlib.Order.Bounds.Basic
import Catalogue.Proofs.Pool.Batch

/-!
# When the calls of a batch start

A call of a batch starts when it gets a worker: at once, or when a worker is handed on. Nothing in a
batch says when that was, so the starts are noted beside it, as one would who watches.

* `Batch.states` -- what there is to see of a batch on its way, `Batch.starts` -- the calls that
  were first seen with a worker, in the order in which that was, each with the time;
* `unfinished` -- how many calls in front of another one are not back at a time;
* `Timed` -- the invariant: calls start in the order of the batch, each at the earliest time at
  which not all workers are with calls in front of it (`Timed.enter`, `Timed.advance`);
* `Timed.enters`, `Timed.ends` -- it holds on the whole way.
-/

namespace Catalogue.Pool.Batch

/-! ## 1. Watching a batch -/

/-- The calls that have a worker, or had one and came back. -/
def begun (b : Batch) : List Nat :=
  b.pool.running.map Job.index ++ (b.returns.filter Return.ran).map Return.index

/-- Notes the calls that have begun since the last look, with the time. -/
def note (starts : List (Nat × Nat)) (b : Batch) : List (Nat × Nat) :=
  starts ++ (b.begun.filter fun i => i ∉ starts.map Prod.fst).map fun i => (i, b.now)

/-- The batch after the start of each of some calls. -/
def entering (limits : Limits) : List Job → Batch → List Batch
  | [], _ => []
  | job :: jobs, b => b.enter limits job :: entering limits jobs (b.enter limits job)

/-- The batch after each of a number of ends. -/
def advancing (limits : Limits) : Nat → Batch → List Batch
  | 0, _ => []
  | n + 1, b => b.advance limits :: advancing limits n (b.advance limits)

/-- **What there is to see of a batch** on its way: it changes with the start of each call, and with
    each end. -/
def states (limits : Limits) (delays : List Nat) : List Batch :=
  entering limits (jobs 0 delays) empty ++
    advancing limits (started limits delays).pool.occupied (started limits delays)

/-- **The calls that got a worker**, in the order in which they did, each with the time. -/
def starts (limits : Limits) (delays : List Nat) : List (Nat × Nat) :=
  (states limits delays).foldl note []

/-- How many calls in front of the `i`-th are not back at a time. -/
def unfinished (delay : Nat → Nat) (starts : List (Nat × Nat)) (i time : Nat) : Nat :=
  starts.countP fun (j, start) => j < i ∧ time < start + delay j

section

variable {limits : Limits} {delay : Nat → Nat} {k : Nat} {b : Batch} {starts : List (Nat × Nat)}

/-- **Time stands still, or passes for all running calls alike**, by no more than any of them
    takes. -/
theorem pass_cases (b : Batch) :
    (b.pass = b ∧ (b.pool.running = [] ∨ ∃ j ∈ b.pool.running, j.left = 0)) ∨
    ∃ d, 0 < d ∧ (∀ j ∈ b.pool.running, d ≤ j.left) ∧ b.pass =
      { b with
        pool := { b.pool with running := b.pool.running.map fun j => { j with left := j.left - d } }
        now := b.now + d
        cursor := 0 } := by
  unfold pass
  split
  · next hmin => exact .inl ⟨rfl, .inl (List.map_eq_nil_iff.mp (List.min?_eq_none_iff.mp hmin))⟩
  · next hmin =>
    obtain ⟨j, hj, hzero⟩ := List.mem_map.mp (List.min?_mem hmin)
    exact .inl ⟨rfl, .inr ⟨j, hj, hzero⟩⟩
  · next d hd hmin =>
    refine .inr ⟨d, Nat.pos_of_ne_zero hd, fun j hj => ?_, rfl⟩
    exact (List.min?_eq_some_iff.mp hmin).2 _ (List.mem_map_of_mem hj)

/-- **An end is that of a running call** for which no time is left. -/
theorem exists_advance (limits : Limits) {b : Batch} (hrunning : ∃ j, j ∈ b.pool.running) :
    ∃ job ∈ b.pass.pool.running, job.left = 0 ∧
      b.advance limits = finishJob limits b.pass job := by
  obtain ⟨j, hj⟩ := hrunning
  obtain ⟨job, hjob, hnext⟩ := exists_next? (List.ne_nil_of_mem hj)
  refine ⟨job, hjob, ?_, by simp only [advance, hnext]⟩
  rcases Option.or_eq_some_iff.mp hnext with hfirst | ⟨-, hfirst⟩
  · have hready := (List.mem_filter.mp (mem_of_earliest? hfirst)).1
    exact of_decide_eq_true (List.mem_filter.mp hready).2
  · exact of_decide_eq_true (List.mem_filter.mp (mem_of_earliest? hfirst)).2

/-- An end takes one call out of the pool. -/
theorem occupied_advance (limits : Limits) {b : Batch} (hrunning : ∃ j, j ∈ b.pool.running) :
    (b.advance limits).pool.occupied + 1 = b.pool.occupied := by
  obtain ⟨job, hjob, -, hadvance⟩ := exists_advance limits hrunning
  have hmem : job ∈ b.pass.pool.calls := List.mem_append_left _ hjob
  have hpass : b.pass.pool.occupied = b.pool.occupied := by
    rcases b.pass_cases with ⟨hsame, -⟩ | ⟨d, -, -, hpass⟩
    · rw [hsame]
    · rw [hpass, occupied, List.length_map]
      rfl
  have hpos := List.length_pos_of_mem hmem
  have hleft : (b.advance limits).pool.calls.length = b.pass.pool.calls.length - 1 := by
    rw [hadvance, ← List.length_erase_of_mem hmem]
    exact congrArg List.length (calls_finish hjob)
  rw [length_calls, length_calls, hpass] at hleft
  rw [length_calls, hpass] at hpos
  omega

/-- No time passes while calls are started. -/
theorem now_enter (limits : Limits) (b : Batch) (job : Job) : (b.enter limits job).now = b.now := by
  unfold enter
  split
  · rfl
  · rfl
  · split
    · rfl
    · rfl

theorem note_of_perm (hbegun : ∀ i, i ∈ starts.map Prod.fst ↔ i ∈ b.begun) {b' : Batch}
    (h : b'.begun.Perm b.begun) : note starts b' = starts := by
  have hnone : b'.begun.filter (fun i => i ∉ starts.map Prod.fst) = [] := by
    refine List.filter_eq_nil_iff.mpr fun i hi => ?_
    simpa using (hbegun i).mpr (h.mem_iff.mp hi)
  rw [note, hnone, List.map_nil, List.append_nil]

theorem note_of_perm_cons (hbegun : ∀ i, i ∈ starts.map Prod.fst ↔ i ∈ b.begun) {b' : Batch}
    {i : Nat} (hi : i ∉ b.begun) (h : b'.begun.Perm (i :: b.begun)) :
    note starts b' = starts ++ [(i, b'.now)] := by
  have hnew : b'.begun.filter (fun i => i ∉ starts.map Prod.fst) = [i] := by
    have hold : b.begun.filter (fun i => i ∉ starts.map Prod.fst) = [] := by
      refine List.filter_eq_nil_iff.mpr fun j hj => ?_
      simpa using (hbegun j).mpr hj
    have hself : i ∉ starts.map Prod.fst := fun hmem => hi ((hbegun i).mp hmem)
    have hfilter := h.filter fun i => i ∉ starts.map Prod.fst
    rw [List.filter_cons, if_pos (decide_eq_true hself), hold] at hfilter
    exact List.perm_singleton.mp hfilter
  rw [note, hnew, List.map_singleton]

/-- A call that ends has begun as before: it ran, and now it is back. -/
theorem begun_erase {job : Job} (hjob : job ∈ b.pool.running) :
    ((b.pool.running.erase job).map Job.index ++
      ((finishJob limits b job).returns.filter Return.ran).map Return.index).Perm b.begun := by
  have hrunning := (List.perm_cons_erase hjob).map Job.index
  have hback : ((finishJob limits b job).returns.filter Return.ran).map Return.index =
      (b.returns.filter Return.ran).map Return.index ++ [job.index] := by
    simp [finishJob, List.filter_append]
  rw [hback, begun, ← List.append_assoc]
  exact (List.perm_append_singleton _ _).trans (hrunning.append_right _).symm

/-- A call that ends without handing its worker on begins nothing. -/
theorem begun_finish {job : Job} (hjob : job ∈ b.pool.running) (hnone : b.pool.waiting = []) :
    (finishJob limits b job).begun.Perm b.begun := by
  rw [begun, pool_finishJob_of_nil job hnone]
  exact begun_erase hjob

/-- One that hands it on begins the call that has waited longest. -/
theorem begun_handOver {job : Job} (hjob : job ∈ b.pool.running) {next : Job} {rest : List Job}
    (hwaiting : b.pool.waiting = next :: rest) :
    (finishJob limits b job).begun.Perm (next.index :: b.begun) := by
  rw [begun, pool_finishJob_of_cons job hwaiting, List.map_append, List.append_assoc,
    List.map_singleton, List.singleton_append]
  exact List.perm_middle.trans ((begun_erase hjob).cons _)

/-- There are calls in a pool that is occupied. -/
theorem calls_ne_nil {n : Nat} (hn : b.pool.occupied = n + 1) : b.pool.calls ≠ [] := by
  intro hnil
  rw [← length_calls, hnil] at hn
  cases hn

/-! ## 2. The invariant -/

/-- **A batch on its way against the starts that were noted**, once `k` calls have been started. -/
structure Timed (limits : Limits) (delay : Nat → Nat) (k : Nat) (b : Batch)
    (starts : List (Nat × Nat)) : Prop where
  sound : b.pool.Sound limits
  places : (b.pool.calls.map Job.index ++ b.returns.map Return.index).Perm (List.range k)
  begun : ∀ i, i ∈ starts.map Prod.fst ↔ i ∈ b.begun
  /-- Calls start in the order of the batch, and those that wait are behind all that started. -/
  order : (starts.map Prod.fst ++ b.pool.waiting.map Job.index).Pairwise (· < ·)
  running : ∀ j ∈ b.pool.running, ∃ start, (j.index, start) ∈ starts ∧
    start + delay j.index = b.now + j.left
  waiting : ∀ j ∈ b.pool.waiting, j.left = delay j.index
  back : ∀ r ∈ b.returns, r.ran = true → ∃ start, (r.index, start) ∈ starts ∧
    start + delay r.index = r.time ∧ r.time ≤ b.now
  /-- A call starts as early as the calls in front of it leave a worker. -/
  least : ∀ i start, (i, start) ∈ starts →
    IsLeast {time | unfinished delay starts i time < limits.workers} start

theorem timed_empty (limits : Limits) (delay : Nat → Nat) : Timed limits delay 0 empty [] where
  sound := sound_empty limits
  places := .refl _
  begun _ := ⟨nofun, nofun⟩
  order := .nil
  running := nofun
  waiting := nofun
  back := nofun
  least := nofun

namespace Timed

theorem nodup (h : Timed limits delay k b starts) : (starts.map Prod.fst).Nodup :=
  ((List.pairwise_append.mp h.order).1).imp Nat.ne_of_lt

/-- A call starts once. -/
theorem start_unique (h : Timed limits delay k b starts) {i s s' : Nat} (hs : (i, s) ∈ starts)
    (hs' : (i, s') ∈ starts) : s = s' :=
  congrArg Prod.snd (List.inj_on_of_nodup_map h.nodup hs hs' rfl)

/-- The calls in the pool and those that came back are different calls of the first `k`. -/
theorem nodup_places (h : Timed limits delay k b starts) :
    (b.pool.calls.map Job.index ++ b.returns.map Return.index).Nodup :=
  h.places.nodup_iff.mpr List.nodup_range

theorem index_lt (h : Timed limits delay k b starts) {j : Job} (hj : j ∈ b.pool.calls) :
    j.index < k :=
  List.mem_range.mp (h.places.mem_iff.mp (List.mem_append_left _ (List.mem_map_of_mem hj)))

theorem return_lt (h : Timed limits delay k b starts) {r : Return} (hr : r ∈ b.returns) :
    r.index < k :=
  List.mem_range.mp (h.places.mem_iff.mp (List.mem_append_right _ (List.mem_map_of_mem hr)))

theorem start_lt (h : Timed limits delay k b starts) {i : Nat} (hi : i ∈ starts.map Prod.fst) :
    i < k := by
  rcases List.mem_append.mp ((h.begun i).mp hi) with hrunning | hback
  · obtain ⟨j, hj, rfl⟩ := List.mem_map.mp hrunning
    exact h.index_lt (List.mem_append_left _ hj)
  · obtain ⟨r, hr, rfl⟩ := List.mem_map.mp hback
    exact h.return_lt (List.mem_filter.mp hr).1

/-- A call that runs is not among those that came back. -/
theorem notMem_begun (h : Timed limits delay k b starts) {i : Nat}
    (hi : i ∈ b.pool.waiting.map Job.index) : i ∉ b.begun := by
  intro hmem
  have hstarted := (h.begun i).mpr hmem
  exact Nat.lt_irrefl i ((List.pairwise_append.mp h.order).2.2 i hstarted i hi)

/-! ### Counting -/

/-- **The calls that are not back at present run**, and have something left. -/
theorem unfinished_le (h : Timed limits delay k b starts) (i : Nat) :
    unfinished delay starts i b.now ≤ (b.pool.running.filter fun j => 0 < j.left).length := by
  let open_ := starts.filter fun (j, start) => j < i ∧ b.now < start + delay j
  have hnodup : (open_.map Prod.fst).Nodup := h.nodup.sublist (List.filter_sublist.map _)
  have hsubset : open_.map Prod.fst ⊆
      (b.pool.running.filter fun j => 0 < j.left).map Job.index := by
    intro j hj
    obtain ⟨⟨j, start⟩, hmem, rfl⟩ := List.mem_map.mp hj
    obtain ⟨hmem, hopen⟩ := List.mem_filter.mp hmem
    have hlater : b.now < start + delay j := (of_decide_eq_true hopen).2
    rcases List.mem_append.mp ((h.begun j).mp (List.mem_map_of_mem hmem)) with hrunning | hback
    · obtain ⟨job, hjob, hindex⟩ := List.mem_map.mp hrunning
      obtain ⟨start', hmem', htime⟩ := h.running job hjob
      rw [hindex] at hmem' htime
      obtain rfl := h.start_unique hmem hmem'
      refine List.mem_map.mpr ⟨job, List.mem_filter.mpr ⟨hjob, ?_⟩, hindex⟩
      rw [decide_eq_true_eq]
      omega
    · obtain ⟨r, hr, hindex⟩ := List.mem_map.mp hback
      obtain ⟨hr, hran⟩ := List.mem_filter.mp hr
      obtain ⟨start', hmem', htime, hle⟩ := h.back r hr hran
      rw [hindex] at hmem' htime
      obtain rfl := h.start_unique hmem hmem'
      omega
  have hlength := (hnodup.subperm hsubset).length_le
  rw [List.length_map, List.length_map] at hlength
  exact (List.countP_eq_length_filter).trans_le hlength

/-- **The calls that run are not back before they have ended.** -/
theorem le_unfinished (h : Timed limits delay k b starts) (i time : Nat)
    (hfront : ∀ j ∈ b.pool.running, j.index < i)
    (hearly : ∀ j ∈ b.pool.running, time < b.now + j.left) :
    b.pool.running.length ≤ unfinished delay starts i time := by
  let open_ := starts.filter fun (j, start) => j < i ∧ time < start + delay j
  have hnodup : (b.pool.running.map Job.index).Nodup := by
    have hcalls := (List.nodup_append.mp h.nodup_places).1
    rw [calls, List.map_append] at hcalls
    exact (List.nodup_append.mp hcalls).1
  have hsubset : b.pool.running.map Job.index ⊆ open_.map Prod.fst := by
    intro j hj
    obtain ⟨job, hjob, rfl⟩ := List.mem_map.mp hj
    obtain ⟨start, hmem, htime⟩ := h.running job hjob
    refine List.mem_map.mpr ⟨(job.index, start), List.mem_filter.mpr ⟨hmem, ?_⟩, rfl⟩
    have hlater := hearly job hjob
    exact decide_eq_true ⟨hfront job hjob, by omega⟩
  have hlength := (hnodup.subperm hsubset).length_le
  rw [List.length_map, List.length_map] at hlength
  exact hlength.trans_eq (List.countP_eq_length_filter).symm

/-- A new start makes no difference to the calls in front of it. -/
theorem unfinished_concat {i i' : Nat} (hle : i' ≤ i) (start time : Nat) :
    unfinished delay (starts ++ [(i, start)]) i' time = unfinished delay starts i' time := by
  have hnot : ¬ (i < i' ∧ time < start + delay i) := fun h => absurd h.1 (Nat.not_lt_of_le hle)
  simp [unfinished, List.countP_append, hnot]

/-- One more call that starts as early as it can. -/
theorem least_concat (h : Timed limits delay k b starts) {i start : Nat}
    (hbehind : ∀ j ∈ starts.map Prod.fst, j < i)
    (hleast : IsLeast {time | unfinished delay starts i time < limits.workers} start) :
    ∀ i' start', (i', start') ∈ starts ++ [(i, start)] →
      IsLeast {time | unfinished delay (starts ++ [(i, start)]) i' time < limits.workers}
        start' := by
  intro i' start' hmem
  rcases List.mem_append.mp hmem with hold | hnew
  · have hle : i' ≤ i := Nat.le_of_lt (hbehind i' (List.mem_map_of_mem hold))
    simp only [unfinished_concat hle]
    exact h.least i' start' hold
  · obtain ⟨rfl, rfl⟩ := Prod.mk.inj (List.mem_singleton.mp hnew)
    simp only [unfinished_concat (Nat.le_refl _)]
    exact hleast

/-! ### Starts of calls -/

/-- One more call in the pool. -/
theorem places_cons (h : Timed limits delay k b starts) {calls : List Job} (left : Nat)
    (hcalls : calls.Perm (⟨k, left⟩ :: b.pool.calls)) :
    (calls.map Job.index ++ b.returns.map Return.index).Perm (List.range (k + 1)) := by
  have hmore : (calls.map Job.index ++ b.returns.map Return.index).Perm (k :: List.range k) :=
    ((hcalls.map Job.index).append_right _).trans (h.places.cons k)
  rw [List.range_succ]
  exact hmore.trans (List.perm_append_singleton k _).symm

/-- A call is turned away. -/
theorem turnAway (h : Timed limits delay k b starts) (time idle : Nat) :
    Timed limits delay (k + 1) { b with returns := b.returns ++ [⟨k, false, time, idle⟩] }
      starts where
  sound := h.sound
  places := by
    rw [List.map_append, ← List.append_assoc, List.range_succ]
    exact h.places.append_right _
  begun i := by
    rw [h.begun, Batch.begun, Batch.begun, List.filter_append]
    simp
  order := h.order
  running := h.running
  waiting := h.waiting
  back r hr hran := by
    rcases List.mem_append.mp hr with hold | hnew
    · exact h.back r hold hran
    · rw [List.mem_singleton.mp hnew] at hran
      cases hran
  least := h.least

/-- A call joins those that wait. -/
theorem queue (h : Timed limits delay k b starts) (hplace : b.pool.occupied < limits.places)
    (hbusy : limits.workers ≤ b.pool.running.length) :
    Timed limits delay (k + 1)
      { b with pool := b.pool.queue ⟨k, delay k⟩ } starts where
  sound := h.sound.queue hplace hbusy _
  places := by
    refine h.places_cons (delay k) ?_
    rw [calls_queue]
    exact List.perm_append_singleton _ _
  begun := h.begun
  order := by
    rw [Pool.queue, List.map_append, ← List.append_assoc]
    refine List.pairwise_append.mpr ⟨h.order, List.pairwise_singleton _ _, fun i hi j hj => ?_⟩
    rw [List.mem_singleton.mp hj]
    rcases List.mem_append.mp hi with hstarted | hwaiting
    · exact h.start_lt hstarted
    · obtain ⟨job, hjob, rfl⟩ := List.mem_map.mp hwaiting
      exact h.index_lt (List.mem_append_right _ hjob)
  running := h.running
  waiting j hj := by
    rcases List.mem_append.mp hj with hold | hnew
    · exact h.waiting j hold
    · rw [List.mem_singleton.mp hnew]
  back := h.back
  least := h.least

/-- No call waits while a worker is idle. -/
theorem waiting_eq_nil (h : Timed limits delay k b starts)
    (hidle : b.pool.running.length < limits.workers) : b.pool.waiting = [] :=
  Classical.byContradiction fun hne => absurd (h.sound.busy hne) (Nat.ne_of_lt hidle)

/-- A call gets a worker at once. -/
theorem start (h : Timed limits delay k b starts) (hnow : b.now = 0)
    (hplace : b.pool.occupied < limits.places)
    (hidle : b.pool.running.length < limits.workers) :
    Timed limits delay (k + 1)
      { b with pool := b.pool.start ⟨k, delay k⟩ } (starts ++ [(k, b.now)]) where
  sound := h.sound.start hplace hidle _
  places := h.places_cons (delay k) (b.pool.calls_start_perm _)
  begun i := by
    simp only [Batch.begun, Pool.start, List.map_append, List.mem_append, h.begun, List.map_cons,
      List.map_nil]
    exact or_right_comm
  order := by
    have horder := h.order
    rw [h.waiting_eq_nil hidle, List.map_nil, List.append_nil] at horder
    rw [Pool.start, h.waiting_eq_nil hidle, List.map_nil, List.append_nil, List.map_append]
    refine List.pairwise_append.mpr ⟨horder, List.pairwise_singleton _ _, fun i hi j hj => ?_⟩
    rw [List.mem_singleton.mp hj]
    exact h.start_lt hi
  running j hj := by
    rcases List.mem_append.mp hj with hold | hnew
    · obtain ⟨start, hmem, htime⟩ := h.running j hold
      exact ⟨start, List.mem_append_left _ hmem, htime⟩
    · rw [List.mem_singleton.mp hnew]
      exact ⟨b.now, List.mem_append_right _ List.mem_cons_self, rfl⟩
  waiting := h.waiting
  back r hr hran := by
    obtain ⟨start, hmem, htime⟩ := h.back r hr hran
    exact ⟨start, List.mem_append_left _ hmem, htime⟩
  least := by
    refine h.least_concat (fun j hj => h.start_lt hj) ⟨?_, fun time _ => ?_⟩
    · exact Nat.lt_of_le_of_lt (h.unfinished_le k)
        (Nat.lt_of_le_of_lt (List.length_filter_le _ _) hidle)
    · rw [hnow]
      exact Nat.zero_le time

/-! ### Ends of calls -/

/-- Time passes until a call can end. -/
theorem pass (h : Timed limits delay k b starts) : Timed limits delay k b.pass starts := by
  rcases b.pass_cases with ⟨hsame, -⟩ | ⟨d, -, hle, hpass⟩
  · rw [hsame]
    exact h
  · rw [hpass]
    have hindex : (b.pool.running.map fun j => { j with left := j.left - d }).map Job.index =
        b.pool.running.map Job.index := by
      rw [List.map_map]
      rfl
    exact {
      sound := h.sound.exchange (List.length_map _)
      places := by
        rw [calls, List.map_append, hindex, ← List.map_append]
        exact h.places
      begun := fun i => by
        rw [h.begun, Batch.begun, Batch.begun, hindex]
      order := h.order
      running := fun j hj => by
        obtain ⟨j, hmapped, rfl⟩ := List.mem_map.mp hj
        obtain ⟨start, hmem, htime⟩ := h.running j hmapped
        have hd := hle j hmapped
        refine ⟨start, hmem, htime.trans ?_⟩
        show b.now + j.left = b.now + d + (j.left - d)
        omega
      waiting := h.waiting
      back := fun r hr hran => by
        obtain ⟨start, hmem, htime, hback⟩ := h.back r hr hran
        exact ⟨start, hmem, htime, Nat.le_add_right_of_le hback⟩
      least := h.least }

/-- The pool keeps its calls but for the one that ends. -/
theorem places_finishJob (h : Timed limits delay k b starts) {job : Job}
    (hjob : job ∈ b.pool.running) :
    ((finishJob limits b job).pool.calls.map Job.index ++
      (finishJob limits b job).returns.map Return.index).Perm (List.range k) := by
  have hcalls : b.pool.calls.Perm (job :: b.pool.calls.erase job) :=
    List.perm_cons_erase (List.mem_append_left _ hjob)
  have hreturns : (finishJob limits b job).returns.map Return.index =
      b.returns.map Return.index ++ [job.index] := List.map_append
  have hleft : (finishJob limits b job).pool.calls = b.pool.calls.erase job := calls_finish hjob
  rw [hleft, hreturns]
  refine List.Perm.trans ?_ ((((hcalls.map Job.index).append_right _).symm).trans h.places)
  rw [List.map_cons, List.cons_append, ← List.append_assoc]
  exact List.perm_append_singleton _ _

/-- A call that ends is back at the time at which it has to be. -/
theorem back_finishJob (h : Timed limits delay k b starts) {job : Job}
    (hjob : job ∈ b.pool.running) (hdone : job.left = 0) :
    ∀ r ∈ (finishJob limits b job).returns, r.ran = true → ∃ start, (r.index, start) ∈ starts ∧
      start + delay r.index = r.time ∧ r.time ≤ (finishJob limits b job).now := by
  intro r hr hran
  rcases List.mem_append.mp hr with hold | hnew
  · exact h.back r hold hran
  · rw [List.mem_singleton.mp hnew]
    obtain ⟨start, hmem, htime⟩ := h.running job hjob
    rw [hdone] at htime
    exact ⟨start, hmem, htime, Nat.le_refl _⟩

/-- A call ends, and no call waits. -/
theorem finish (h : Timed limits delay k b starts) {job : Job} (hjob : job ∈ b.pool.running)
    (hdone : job.left = 0) (hnone : b.pool.waiting = []) :
    Timed limits delay k (finishJob limits b job) starts := by
  have hpool : (finishJob limits b job).pool =
      ⟨b.pool.acquired - 1, b.pool.admitted - 1, b.pool.running.erase job, []⟩ :=
    pool_finishJob_of_nil job hnone
  exact {
    sound := h.sound.finish hjob
    places := h.places_finishJob hjob
    begun := fun i => by
      rw [h.begun]
      exact (begun_finish hjob hnone).mem_iff.symm
    order := by
      rw [hpool]
      have horder := h.order
      rwa [hnone] at horder
    running := fun j hj => by
      rw [hpool] at hj
      exact h.running j (List.mem_of_mem_erase hj)
    waiting := fun j hj => by
      rw [hpool] at hj
      cases hj
    back := h.back_finishJob hjob hdone
    least := h.least }

/-- A call ends, and hands its worker on. -/
theorem handOver (h : Timed limits delay k b starts) {job : Job} (hjob : job ∈ b.pool.running)
    (hdone : job.left = 0) {next : Job} {rest : List Job}
    (hwaiting : b.pool.waiting = next :: rest) :
    Timed limits delay k (finishJob limits b job) (starts ++ [(next.index, b.now)]) := by
  have hpool : (finishJob limits b job).pool =
      ⟨b.pool.acquired, b.pool.admitted - 1, b.pool.running.erase job ++ [next], rest⟩ :=
    pool_finishJob_of_cons job hwaiting
  have horder := h.order
  rw [hwaiting, List.map_cons] at horder
  have hbehind : ∀ i ∈ starts.map Prod.fst, i < next.index := fun i hi =>
    (List.pairwise_append.mp horder).2.2 i hi next.index List.mem_cons_self
  have hbusy : b.pool.running.length = limits.workers :=
    h.sound.busy (by rw [hwaiting]; exact List.cons_ne_nil next rest)
  exact {
    sound := h.sound.finish hjob
    places := h.places_finishJob hjob
    begun := fun i => by
      rw [(begun_handOver hjob hwaiting).mem_iff, List.map_append, List.mem_append, h.begun,
        List.mem_cons, or_comm]
      simp
    order := by
      rw [hpool, List.map_append, List.append_assoc]
      exact horder
    running := fun j hj => by
      rw [hpool] at hj
      rcases List.mem_append.mp hj with hold | hnew
      · obtain ⟨start, hmem, htime⟩ := h.running j (List.mem_of_mem_erase hold)
        exact ⟨start, List.mem_append_left _ hmem, htime⟩
      · rw [List.mem_singleton.mp hnew]
        have hleft := h.waiting next (by rw [hwaiting]; exact List.mem_cons_self)
        exact ⟨b.now, List.mem_append_right _ List.mem_cons_self, by rw [hleft]; rfl⟩
    waiting := fun j hj => by
      rw [hpool] at hj
      exact h.waiting j (by rw [hwaiting]; exact List.mem_cons_of_mem next hj)
    back := fun r hr hran => by
      obtain ⟨start, hmem, htime⟩ := h.back_finishJob hjob hdone r hr hran
      exact ⟨start, List.mem_append_left _ hmem, htime⟩
    least := by
      refine h.least_concat hbehind ⟨?_, fun time htime => ?_⟩
      · -- the worker that is handed on is free
        have hfewer : (b.pool.running.filter fun j => 0 < j.left).length < b.pool.running.length :=
          List.length_filter_lt_length_iff_exists.mpr ⟨job, hjob, by simp [hdone]⟩
        rw [hbusy] at hfewer
        exact Nat.lt_of_le_of_lt (h.unfinished_le next.index) hfewer
      · -- before, all workers were with calls in front
        refine Nat.le_of_not_lt fun hearly => ?_
        have hall := h.le_unfinished next.index time (fun j hj => ?_) fun j _ => by omega
        · rw [hbusy] at hall
          exact absurd htime (Nat.not_lt_of_le hall)
        · refine hbehind _ ((h.begun j.index).mpr ?_)
          exact List.mem_append_left _ (List.mem_map_of_mem hj) }

/-! ### Whole changes -/

/-- **The start of a call keeps the invariant.** -/
theorem enter (h : Timed limits delay k b starts) (hnow : b.now = 0) :
    Timed limits delay (k + 1) (b.enter limits ⟨k, delay k⟩)
      (note starts (b.enter limits ⟨k, delay k⟩)) := by
  rcases h.sound.arrive_cases ⟨k, delay k⟩ with ⟨-, hb⟩ | ⟨hplace, hidle, hb⟩ |
    ⟨hplace, hbusy, hb⟩
  · simp only [Batch.enter, hb]
    rw [note_of_perm h.begun (.of_eq (by simp [Batch.begun, List.filter_append]))]
    exact h.turnAway _ _
  · let b' : Batch := { b with pool := b.pool.start ⟨k, delay k⟩ }
    have hstart : Timed limits delay (k + 1) b' (starts ++ [(k, b.now)]) :=
      h.start hnow hplace hidle
    have hbegun : b'.begun.Perm (k :: b.begun) := by
      simp only [Batch.begun, b', Pool.start, List.map_append, List.append_assoc]
      exact List.perm_middle
    have hnew : k ∉ b.begun := fun hmem =>
      Nat.lt_irrefl k (h.start_lt ((h.begun k).mpr hmem))
    by_cases hleft : delay k = 0
    · have hjob : ⟨k, delay k⟩ ∈ b'.pool.running := List.mem_append_right _ List.mem_cons_self
      have hnone : b'.pool.waiting = [] := h.waiting_eq_nil hidle
      simp only [Batch.enter, hb, if_pos hleft]
      rw [note_of_perm_cons h.begun hnew ((begun_finish hjob hnone).trans hbegun)]
      exact hstart.finish hjob hleft hnone
    · simp only [Batch.enter, hb, if_neg hleft]
      rw [note_of_perm_cons h.begun hnew hbegun]
      exact hstart
  · let b' : Batch := { b with pool := b.pool.queue ⟨k, delay k⟩ }
    have hsame : b'.begun.Perm b.begun := .refl _
    have hqueue : Timed limits delay (k + 1) b' starts := h.queue hplace hbusy
    simp only [Batch.enter, hb]
    rwa [← note_of_perm h.begun hsame] at hqueue

/-- **An end keeps the invariant.** -/
theorem advance (h : Timed limits delay k b starts) (hne : b.pool.calls ≠ []) :
    Timed limits delay k (b.advance limits) (note starts (b.advance limits)) := by
  obtain ⟨job, hjob, hdone, hadvance⟩ := exists_advance limits (h.sound.exists_running hne)
  have hpass := h.pass
  rw [hadvance]
  cases hwaiting : b.pass.pool.waiting with
  | nil =>
    rw [note_of_perm hpass.begun (begun_finish hjob hwaiting)]
    exact hpass.finish hjob hdone hwaiting
  | cons next rest =>
    have hnew : next.index ∉ b.pass.begun :=
      hpass.notMem_begun (by rw [hwaiting]; exact List.mem_cons_self)
    rw [note_of_perm_cons hpass.begun hnew (begun_handOver hjob hwaiting)]
    exact hpass.handOver hjob hdone hwaiting

/-! ### The whole way -/

/-- **The starts of calls keep the invariant**, one after another. -/
theorem enters (h : Timed limits delay k b starts) (hnow : b.now = 0) (delays : List Nat)
    (hdelays : ∀ i (hi : i < delays.length), delays[i] = delay (k + i)) :
    Timed limits delay (k + delays.length) ((jobs k delays).foldl (Batch.enter limits) b)
      ((entering limits (jobs k delays) b).foldl note starts) := by
  induction delays generalizing k b starts with
  | nil => exact h
  | cons d delays ih =>
    obtain rfl : d = delay k := hdelays 0 (Nat.succ_pos _)
    have hrest := ih (h.enter hnow) ((now_enter limits b _).trans hnow) fun i hi => by
      rw [Nat.add_right_comm, Nat.add_assoc]
      exact hdelays (i + 1) (Nat.succ_lt_succ hi)
    rw [Nat.add_right_comm, Nat.add_assoc] at hrest
    exact hrest

/-- **So do as many ends as there are calls**, and then there are none. -/
theorem ends (h : Timed limits delay k b starts) {n : Nat} (hn : b.pool.occupied = n) :
    Timed limits delay k (b.advances limits n) ((advancing limits n b).foldl note starts) ∧
      (b.advances limits n).pool.calls = [] := by
  induction n generalizing b starts with
  | zero =>
    rw [← length_calls] at hn
    exact ⟨h, List.eq_nil_of_length_eq_zero hn⟩
  | succ n ih =>
    have hne := calls_ne_nil hn
    refine ih (h.advance hne) ?_
    have hoccupied := occupied_advance limits (h.sound.exists_running hne)
    omega

end Timed

end

theorem getD_of_lt {delays : List Nat} {i : Nat} (hi : i < delays.length) :
    delays[i] = delays.getD i 0 := by
  rw [List.getD_eq_getElem?_getD, List.getElem?_eq_getElem hi, Option.getD_some]

/-- **The invariant holds once all calls are started**, -/
theorem timed_started (limits : Limits) (delays : List Nat) :
    Timed limits (fun i => delays.getD i 0) delays.length (started limits delays)
      ((entering limits (jobs 0 delays) empty).foldl note []) := by
  have hstarted := (timed_empty limits fun i => delays.getD i 0).enters rfl delays fun i hi => by
    rw [Nat.zero_add, getD_of_lt hi]
  rw [Nat.zero_add] at hstarted
  exact hstarted

/-- **and of a whole batch**; in the end the pool is empty. -/
theorem timed_run (limits : Limits) (delays : List Nat) :
    Timed limits (fun i => delays.getD i 0) delays.length (run limits delays)
        (starts limits delays) ∧ (run limits delays).pool.calls = [] := by
  have hended := (timed_started limits delays).ends rfl
  rw [← List.foldl_append] at hended
  exact hended

end Catalogue.Pool.Batch
