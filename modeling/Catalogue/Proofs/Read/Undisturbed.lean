import Mathlib.Data.List.FinRange
import Mathlib.Data.List.Nodup
import Mathlib.Data.List.ProdSigma
import Catalogue.Deployment
import Catalogue.Proofs.Pool.Safety
import Catalogue.Proofs.Read.Degraded
import Catalogue.Proofs.Store.Domains

/-!
# Reads that leave each other alone

Reads that are started together share one pool. If it has room for all their calls, no call is
turned away, however few the workers are and however long the calls wait for them; then each read
has the answer that it would have on its own.

* `Reading.complete` -- the result of a read all of whose calls ran;
* `resultOf_of_room`, `readAll_of_room` -- batches with room for all their calls; `read_of_room` --
  a read on its own is one;
* `answer_eq_complete` -- reads in a pool in use that turns none of their calls away;
* `started_perm` -- the calls that got a worker are those of the reads, each once;
* `Undisturbed` -- what can be said of reads that find room (`undisturbed_of_room`);
* `composite_of_room` -- the same of the composite service, which reads from services in the same
  process; `undisturbed_reads` -- both.
-/

namespace Catalogue

/-! ## 1. Batches -/

namespace Pool.Batch

/-- **In a batch that has room for all its calls, every call runs** and comes back with its own
    result. -/
theorem resultOf_of_room {limits : Limits} {delays : List Nat}
    (hroom : delays.length ≤ limits.places) {i : Nat} (hi : i < delays.length) {α : Type}
    (call : Call α) :
    ∃ time idle, (run limits delays).resultOf i call =
      ⟨call.outcome, call.counters, true, time, idle⟩ := by
  obtain ⟨events, hshows, harrived, hempty⟩ := exists_run limits delays
  have hback := Usage.back_of_calls_eq_nil hempty ((harrived i).mpr hi)
  have hadmitted : (Usage.unused.run limits events).standing i ≠ .rejected := by
    have hplaces : (List.range delays.length).length ≤ limits.places := by
      rw [List.length_range]
      exact hroom
    exact Usage.standing_ne_rejected hplaces (fun c hc => List.mem_range.mpr ((harrived c).mp hc)) i
  have hran := (hshows.ran_resultOf hback call).mpr (hback.resolve_right hadmitted)
  unfold resultOf at hran ⊢
  split
  · exact ⟨_, _, rfl⟩
  · next hr =>
    rw [hr] at hran
    cases hran
  · next hr =>
    rw [hr] at hran
    cases hran

end Pool.Batch

namespace Reading

open Pool (Usage Event)

/-- The result of a read all of whose calls ran. -/
def complete (address : String) (calls : ItemCalls) : Except Failure Aggregate :=
  resolve address calls.product.outcome calls.recommendations.outcome calls.reviews.outcome

/-- What a read counts all of whose calls ran. -/
def completeCounters (calls : ItemCalls) : List Counter :=
  calls.product.counters ++ calls.recommendations.counters ++ calls.reviews.counters ++
    counters calls.product.outcome calls.recommendations.outcome calls.reviews.outcome

/-- **In a batch that has room for all calls, every read is complete.** -/
theorem ofBatch_of_room {limits : Pool.Limits} {delays : List Nat}
    (hroom : delays.length ≤ limits.places) (address : String) (index : Nat)
    (hindex : 3 * index + 2 < delays.length) (calls : ItemCalls) :
    let r := ofBatch address (Pool.Batch.run limits delays) index calls
    r.result = complete address calls ∧ r.counters = completeCounters calls ∧
      r.productRan = true := by
  obtain ⟨_, _, hp⟩ := Pool.Batch.resultOf_of_room hroom (i := 3 * index) (by omega) calls.product
  obtain ⟨_, _, hr⟩ :=
    Pool.Batch.resultOf_of_room hroom (i := 3 * index + 1) (by omega) calls.recommendations
  obtain ⟨_, _, hv⟩ := Pool.Batch.resultOf_of_room hroom hindex calls.reviews
  simp only [ofBatch, hp, hr, hv, complete, completeCounters, and_self]

/-- A read on its own finds three places. -/
theorem read_of_room {limits : Pool.Limits} (hroom : 3 ≤ limits.places) (address : String)
    (calls : ItemCalls) : (read limits address calls).result = complete address calls := by
  have hcalls : calls.delays.length ≤ limits.places := hroom
  exact (ofBatch_of_room hcalls address 0 (Nat.lt_succ_self 2) calls).1

/-- Reads that are started together and find places for all their calls are complete. -/
theorem readAll_of_room {limits : Pool.Limits} (address : String) {reads : List ItemCalls}
    (hroom : 3 * reads.length ≤ limits.places) {index : Nat} {calls : ItemCalls}
    (hcalls : reads[index]? = some calls) :
    ∃ r, (readAll limits address reads)[index]? = some r ∧ r.result = complete address calls ∧
      r.counters = completeCounters calls ∧ r.productRan = true := by
  obtain ⟨hlt, -⟩ := List.getElem?_eq_some_iff.mp hcalls
  have hlength := length_delays reads
  have hplaces : (reads.flatMap ItemCalls.delays).length ≤ limits.places := by omega
  refine ⟨_, ?_, ofBatch_of_room hplaces address index (by omega) calls⟩
  simp only [readAll, List.getElem?_map, List.getElem?_zipIdx, hcalls, Option.map_some,
    Nat.zero_add]

/-! ## 2. Runs -/

section

variable {κ : Type} [DecidableEq κ] {address : String} {calls : ItemCalls} {own : Domain → κ}
  {x : Usage κ} {result : Except Failure Aggregate}

/-- A call that is back and was not turned away has its own outcome. -/
theorem outcome_eq_own {α : Type} {own outcome : Except Failure α} {s : Usage.Standing}
    (hs : s ≠ .rejected) (h : s.outcome own = some outcome) : outcome = own := by
  cases s with
  | ahead => cases h
  | inside => cases h
  | ran => exact (Option.some.inj h).symm
  | rejected => exact absurd rfl hs

/-- **A read none of whose calls is turned away is complete**, once it is answered. -/
theorem answer_eq_complete (hadmitted : ∀ d, x.standing (own d) ≠ .rejected)
    (h : answer address calls own x = some result) : result = complete address calls := by
  obtain ⟨p, r, v, hp, hr, hv, rfl⟩ := answer_eq_some_iff.mp h
  rw [outcome_eq_own (hadmitted .product) hp, outcome_eq_own (hadmitted .recommendation) hr,
    outcome_eq_own (hadmitted .review) hv]
  rfl

end

section

variable {n : Nat} {limits : Pool.Limits} {events : List (Event (Fin n × Domain))}

/-- The calls of some reads. -/
def allCalls (n : Nat) : List (Fin n × Domain) :=
  List.finRange n ×ˢ Domain.all

theorem mem_allCalls (c : Fin n × Domain) : c ∈ allCalls n :=
  List.pair_mem_product.mpr ⟨List.mem_finRange c.1, c.2.mem_all⟩

theorem nodup_allCalls (n : Nat) : (allCalls n).Nodup :=
  (List.nodup_finRange n).product (by decide)

theorem length_allCalls (n : Nat) : (allCalls n).length = 3 * n := by
  rw [allCalls, List.length_product, List.length_finRange, Nat.mul_comm]
  rfl

/-- How many of some calls go to the service of a domain. -/
def callsTo (d : Domain) (cs : List (Fin n × Domain)) : Nat := cs.countP fun c => c.2 = d

theorem callsTo_allCalls (d : Domain) (n : Nat) : callsTo d (allCalls n) = n := by
  have hone (i : Fin n) : (Domain.all.map (Prod.mk i)).countP (fun c => c.2 = d) = 1 := by
    cases d <;> rfl
  simp [callsTo, allCalls, SProd.sprod, List.product, List.countP_flatMap, Function.comp_def, hone]

/-- **When all calls ran, those that got a worker are the calls of the reads**, each once. -/
theorem started_perm (hran : ∀ c, (Usage.unused.run limits events).standing c = .ran) :
    (Usage.unused.gains Pool.running limits events).Perm (allCalls n) := by
  have hstart := Usage.sound_unused (κ := Fin n × Domain) limits
  have hempty := (Usage.sound_run limits events).calls_eq_nil fun c hc => by
    rw [hran c] at hc
    cases hc
  have hwaiting : (Usage.unused.run limits events).pool.waiting = [] :=
    (List.append_eq_nil_iff.mp hempty).2
  have horder := Usage.started_append_waiting limits events
  rw [hwaiting, List.append_nil] at horder
  rw [horder]
  refine (List.perm_ext_iff_of_nodup (Usage.nodup_admitted hstart events)
    (nodup_allCalls n)).mpr fun c => ?_
  exact ⟨fun _ => mem_allCalls c, fun _ => Usage.mem_admitted hstart rfl (.inr (hran c))⟩

end

/-- **What can be said of reads that find room** for all their calls, while services answer as `s`
    says. The calls are known by the number of their read and by their domain. -/
structure Undisturbed (limits : Pool.Limits) (address : String) (s : LocalServices)
    (items : List ItemId) (events : List (Event (Fin items.length × Domain))) : Prop where
  /-- No call is turned away. -/
  admitted : ∀ c, (Usage.unused.run limits events).standing c ≠ .rejected
  /-- Whoever gets an answer gets the one that it would get alone. -/
  alone : ∀ i result,
    answer address (s.calls items[i]) (fun d => (i, d)) (Usage.unused.run limits events) =
        some result →
      result = (read limits address (s.calls items[i])).result
  /-- When all reads are answered, the product service was called once for each of them, and all
      workers are idle. -/
  finished :
    let x := Usage.unused.run limits events
    (∀ i, (answer address (s.calls items[i]) (fun d => (i, d)) x).isSome = true) →
      callsTo .product (Usage.unused.gains Pool.running limits events) = items.length ∧
        x.pool.idle limits = limits.workers
  /-- They are answered, once all calls have arrived and as many calls as are in the pool have
      ended, one after another and in any order in which they can. -/
  answered : (∀ c, .arrive c ∈ events) →
    let x := Usage.unused.run limits events
    (∃ ends, x.pool.Drains ends ∧ ends.length = x.pool.occupied) ∧
      ∀ ends, x.pool.Drains ends → ends.length = x.pool.occupied →
        ∀ i, (answer address (s.calls items[i]) (fun d => (i, d))
          (Usage.unused.run limits (events ++ ends.map .finish))).isSome = true

/-- **Reads that find room leave each other alone**, however they go. -/
theorem undisturbed_of_room {limits : Pool.Limits} (address : String) (s : LocalServices)
    {items : List ItemId} (hroom : 3 * items.length ≤ limits.places)
    (events : List (Event (Fin items.length × Domain))) :
    Undisturbed limits address s items events := by
  have hadmitted (es : List (Event (Fin items.length × Domain))) (c : Fin items.length × Domain) :
      (Usage.unused.run limits es).standing c ≠ .rejected := by
    have hplaces : (allCalls items.length).length ≤ limits.places := by
      rw [length_allCalls]
      exact hroom
    exact Usage.standing_ne_rejected hplaces (fun c _ => mem_allCalls c) c
  refine ⟨hadmitted events, fun i result hresult => ?_, ?_, ?_⟩
  · have halone : 3 ≤ limits.places := by
      have hi := i.isLt
      omega
    rw [read_of_room halone]
    exact answer_eq_complete (fun d => hadmitted events (i, d)) hresult
  · intro x hanswered
    have hran (c : Fin items.length × Domain) : x.standing c = .ran :=
      ((isSome_answer_iff _ _ _ _).mp (hanswered c.1) c.2).resolve_right (hadmitted events c)
    refine ⟨?_, ?_⟩
    · rw [callsTo, (started_perm hran).countP_eq]
      exact callsTo_allCalls .product items.length
    · have hsound := Usage.sound_run limits events
      have hempty := hsound.calls_eq_nil fun c hc => by
        rw [hran c] at hc
        cases hc
      exact hsound.pool.idle_of_calls_eq_nil hempty
  · intro harrived x
    refine ⟨(Usage.sound_run limits events).pool.exists_drains, fun ends hdrains hlength i => ?_⟩
    rw [isSome_answer_iff]
    exact fun d => Usage.back_of_drains hdrains hlength (harrived (i, d))

/-! ## 3. The composite service -/

theorem poolRejections_notMem_degraded {α : Type} (d : Domain)
    (outcome : Except Failure (List α)) : .poolRejections ∉ degraded d outcome := by
  cases outcome with
  | ok _ => exact List.not_mem_nil
  | error _ => simp [degraded]

/-- What a read counts for its outcomes is never a call that was turned away. -/
theorem poolRejections_notMem_counters (product : Except Failure Product)
    (recommendations : Except Failure (List Recommendation))
    (reviews : Except Failure (List Review)) :
    .poolRejections ∉ counters product recommendations reviews := by
  have hr := poolRejections_notMem_degraded .recommendation recommendations
  have hv := poolRejections_notMem_degraded .review reviews
  cases product with
  | error _ => simp [counters]
  | ok _ => simp [counters, hr, hv]

/-- Services in the same process count nothing by themselves. -/
theorem completeCounters_calls (s : LocalServices) (k : ItemId) :
    completeCounters (s.calls k) = counters (s.calls k).product.outcome
      (s.calls k).recommendations.outcome (s.calls k).reviews.outcome := rfl

theorem length_readAll (limits : Pool.Limits) (address : String) (reads : List ItemCalls) :
    (readAll limits address reads).length = reads.length := by
  simp only [readAll, List.length_map, List.length_zipIdx]

/-- **Every one of some reads that find places for all their calls is complete.** -/
theorem exists_of_mem_readAll {limits : Pool.Limits} {address : String} {reads : List ItemCalls}
    (hroom : 3 * reads.length ≤ limits.places) {r : Result}
    (hr : r ∈ readAll limits address reads) :
    ∃ calls ∈ reads, r.counters = completeCounters calls ∧ r.productRan = true := by
  obtain ⟨index, hindex⟩ := List.mem_iff_getElem?.mp hr
  obtain ⟨hlt, -⟩ := List.getElem?_eq_some_iff.mp hindex
  rw [length_readAll] at hlt
  obtain ⟨r', hr', -, hcounters, hran⟩ :=
    readAll_of_room address hroom (List.getElem?_eq_getElem hlt)
  cases hindex.symm.trans hr'
  exact ⟨reads[index], List.getElem_mem hlt, hcounters, hran⟩

/-- **Reads that find room, of the composite service**: each has the result of a read on its own,
    none counts a call that was turned away, the product service was called once for each, and all
    workers are idle when the last is done. -/
theorem composite_of_room {limits : Pool.Limits} (address : String) {items : List ItemId}
    (hroom : 3 * items.length ≤ limits.places)
    (state : Composite.State (List Quota × Transport) LocalServices) :
    let c := Composite.local_ address limits
    let (results, after) := c.readAll items state
    results.map Result.result = items.map (fun k => (c.read k state).1.result) ∧
    (∀ r ∈ results, .poolRejections ∉ r.counters) ∧
    after.services.productCalls = state.services.productCalls + items.length ∧
    (Pool.Batch.run limits ((items.map state.services.calls).flatMap ItemCalls.delays)).pool.idle
      limits = limits.workers := by
  intro c
  have hreads : 3 * (items.map state.services.calls).length ≤ limits.places := by
    rw [List.length_map]
    exact hroom
  refine ⟨List.ext_getElem? fun index => ?_, fun r hr => ?_, ?_, Pool.Batch.idle_run limits _⟩
  · cases hitem : items[index]? with
    | none =>
      have hnone : (readAll limits address (items.map state.services.calls))[index]? = none := by
        rw [List.getElem?_eq_none_iff, length_readAll, List.length_map]
        exact List.getElem?_eq_none_iff.mp hitem
      rw [List.getElem?_map, List.getElem?_map, hitem]
      exact congrArg (Option.map Result.result) hnone
    | some k =>
      obtain ⟨hlt, -⟩ := List.getElem?_eq_some_iff.mp hitem
      have hcalls : (items.map state.services.calls)[index]? = some (state.services.calls k) := by
        rw [List.getElem?_map, hitem]
        rfl
      obtain ⟨r, hr, hresult, -⟩ := readAll_of_room address hreads hcalls
      rw [List.getElem?_map, List.getElem?_map, hitem]
      have hthree : 3 ≤ limits.places := by omega
      have halone := read_of_room hthree address (state.services.calls k)
      exact (congrArg (Option.map Result.result) hr).trans
        (congrArg some (hresult.trans halone.symm))
  · obtain ⟨calls, hmem, hcounters, -⟩ := exists_of_mem_readAll hreads hr
    obtain ⟨k, -, rfl⟩ := List.mem_map.mp hmem
    rw [hcounters, completeCounters_calls]
    exact poolRejections_notMem_counters _ _ _
  · have hran : (readAll limits address (items.map state.services.calls)).countP
        Result.productRan = items.length := by
      rw [List.countP_eq_length.mpr fun r hr => (exists_of_mem_readAll hreads hr).choose_spec.2.2,
        length_readAll, List.length_map]
    exact congrArg (state.services.productCalls + ·) hran

/-- **Reads do not disturb each other when the pool has room for them.** For every size and every
    queue that give places to three calls for each read, whatever the services answer and however
    long they take: in every run of the reads, in whatever order their calls arrive and end, no call
    is turned away, and each read has the answer of a read on its own. So it is when the composite
    service starts the reads together. -/
theorem undisturbed_reads (size queue : Nat) (address : String) (items : List ItemId)
    (hroom : 3 * items.length ≤ min (max size 1 + queue) Pool.maxPlaces) :
    let limits := Pool.Limits.of size queue
    (∀ (s : LocalServices) (events : List (Event (Fin items.length × Domain))),
      Undisturbed limits address s items events) ∧
    ∀ state : Composite.State (List Quota × Transport) LocalServices,
      let c := Composite.local_ address limits
      let (results, after) := c.readAll items state
      results.map Result.result = items.map (fun k => (c.read k state).1.result) ∧
      (∀ r ∈ results, .poolRejections ∉ r.counters) ∧
      after.services.productCalls = state.services.productCalls + items.length ∧
      (Pool.Batch.run limits ((items.map state.services.calls).flatMap ItemCalls.delays)).pool.idle
        limits = limits.workers := by
  intro limits
  have hplaces : 3 * items.length ≤ limits.places := by
    have hlimits : limits.places =
        min (max 1 (min size Pool.maxPlaces) + queue) Pool.maxPlaces := rfl
    omega
  exact ⟨fun s events => undisturbed_of_room address s hplaces events,
    composite_of_room address hplaces⟩

/-- One worker and five places to wait are room for two reads of one item: both show the product,
    and go without the reviews, whose service fails by itself. -/
theorem undisturbed_reads_queued :
    let k : ItemId := ⟨7, by decide, by decide⟩
    let lamp : Product := ⟨k, "lamp", 3, some "p:1"⟩
    let services : LocalServices :=
      ⟨{ LocalService.empty.append lamp with delay := 20 }, .empty,
        { LocalService.empty with failure := some ⟨.unexpected, "offline"⟩ }, 0⟩
    let state : Composite.State (List Quota × Transport) LocalServices :=
      ⟨.zero, ([], .empty 1), services, 0⟩
    3 * [k, k].length ≤ min (max 1 1 + 5) Pool.maxPlaces ∧
    ((Composite.local_ "c:1" (.of 1 5)).readAll [k, k] state).1.map Result.result =
      [.ok ⟨k, "lamp", 3, [], [], ⟨"c:1", "p:1", "", ""⟩⟩,
        .ok ⟨k, "lamp", 3, [], [], ⟨"c:1", "p:1", "", ""⟩⟩] := by
  intro k lamp services state
  have hroom : 3 * [k, k].length ≤ min (max 1 1 + 5) Pool.maxPlaces := by decide
  refine ⟨hroom, ?_⟩
  have hreads := (undisturbed_reads 1 5 "c:1" [k, k] hroom).2 state
  have halone : ((Composite.local_ "c:1" (.of 1 5)).read k state).1.result =
      .ok ⟨k, "lamp", 3, [], [], ⟨"c:1", "p:1", "", ""⟩⟩ :=
    read_of_room (by decide) "c:1" (services.calls k)
  rw [← halone]
  exact hreads.1

end Reading

end Catalogue
