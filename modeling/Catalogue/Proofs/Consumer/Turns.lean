import Catalogue.Proofs.Consumer.Contest

/-!
# Consumers that take turns

Several consumers of one partition may handle a record more than once, but only while their polls
overlap. If polls come one at a time, each record is handled once, by whoever is first.

* `Contest.OneAtATime` -- runs in which a poll begins only when no other is under way;
* `Contest.Orderly` -- the invariant of these runs: what was handed over is the front of the log
  (`Contest.orderly_run`);
* `Contest.Finishing` -- everything has been handed over, or somebody has the rest in a batch; from
  a read on that is so until the next publication (`Contest.finishing_run`);
* `Contest.competing_run` -- what is so in all runs, and what is so in these.
-/

namespace Catalogue

section

variable {ι σ : Type}

namespace Contest

/-! ## 1. Polls that come one at a time -/

section

variable [DecidableEq ι]

/-- Polls that come one at a time: each begins when no other is under way. -/
def OneAtATime (process : ι → Processing σ) (s : Contest ι σ) (events : List (Event ι)) : Prop :=
  ∀ before i after, events = before ++ .read i :: after → (s.run process before).Quiet

variable {process : ι → Processing σ} {s : Contest ι σ}

theorem OneAtATime.head {e : Event ι} {events : List (Event ι)}
    (h : OneAtATime process s (e :: events)) (i : ι) (he : e = .read i) : s.Quiet :=
  h [] i events (by rw [he]; rfl)

theorem OneAtATime.tail {e : Event ι} {events : List (Event ι)}
    (h : OneAtATime process s (e :: events)) : OneAtATime process (s.step process e) events := by
  intro before i after hsplit
  exact h (e :: before) i after (by rw [hsplit]; rfl)

theorem OneAtATime.nil : OneAtATime process s [] := fun before _ _ h => by
  cases before <;> cases h

theorem OneAtATime.cons {e : Event ι} {events : List (Event ι)}
    (quiet : ∀ i, e = .read i → s.Quiet) (h : OneAtATime process (s.step process e) events) :
    OneAtATime process s (e :: events) := by
  intro before i after hsplit
  cases before with
  | nil => exact quiet i (List.cons.inj hsplit).1
  | cons e' before =>
    obtain ⟨rfl, htail⟩ := List.cons.inj hsplit
    exact h before i after htail

theorem OneAtATime.of_append {es es' : List (Event ι)} (h : OneAtATime process s (es ++ es')) :
    OneAtATime process s es ∧ OneAtATime process (s.run process es) es' := by
  refine ⟨fun before i after hsplit => ?_, fun before i after hsplit => ?_⟩
  · exact h before i (after ++ es') (by rw [hsplit, List.append_assoc]; rfl)
  · have hquiet := h (es ++ before) i after (by rw [hsplit, List.append_assoc])
    rwa [run_append] at hquiet

end

/-! ## 2. The front of the log -/

/-- **What was handed over is the front of the log**, each record once: `q` is how far the consumers
    have come together. -/
structure Orderly (topic : String) (partition : Nat) (s : Contest ι σ) (l : Ledger) (q : Nat) :
    Prop where
  handed : s.handed.map Prod.snd = (l.log topic partition).take q
  le : q ≤ l.endOffset topic partition
  position : ∀ i, (s.pollers i).consumer.position ≤ q
  /-- Between polls the mark is as far; during a poll the batch begins there. -/
  phase : (s.Quiet ∧ l.base topic partition = q) ∨
    ∃ i rs, (s.pollers i).batch = some rs ∧ (∀ j, j ≠ i → (s.pollers j).batch = none) ∧
      rs <+: (l.log topic partition).drop q ∧ l.base topic partition ≤ q ∧
      (rs = [] → (s.pollers i).consumer.position = q)

theorem orderly_start (n : Nat) (topic : String) (partition : Nat) (s : σ) :
    Orderly topic partition (start ι n topic partition s) (.empty (max n 1)) 0 where
  handed := rfl
  le := Nat.zero_le _
  position _ := Nat.le_refl _
  phase := Or.inl ⟨fun _ => rfl, rfl⟩

namespace Orderly

variable {topic : String} {partition : Nat} {s : Contest ι σ} {l : Ledger} {q : Nat}
  [DecidableEq ι] (process : ι → Processing σ)

theorem operation (h : Orderly topic partition s l q) (op : Operation)
    (hop : ∀ offset, op ≠ .commit topic partition offset) :
    Orderly topic partition (s.step process (.operation op)) (l.apply op) q := by
  obtain ⟨more, hlog⟩ := l.log_prefix_apply op topic partition
  have hlen : q ≤ (l.log topic partition).length := by
    rw [Ledger.length_log]
    exact h.le
  refine ⟨?_, Nat.le_trans h.le (l.endOffset_le_apply op topic partition), h.position, ?_⟩
  · rw [hlog, List.take_append_of_le_length hlen]
    exact h.handed
  · rw [l.base_apply op topic partition hop]
    refine h.phase.imp id ?_
    rintro ⟨i, rs, hi, hothers, hrs, hbase, hdone⟩
    refine ⟨i, rs, hi, hothers, ?_, hbase, hdone⟩
    rw [hlog, List.drop_append_of_le_length hlen]
    exact hrs.trans (List.prefix_append _ _)

omit [DecidableEq ι] in
/-- Between polls the mark is where the consumers are. -/
theorem base_of_quiet (h : Orderly topic partition s l q) (quiet : s.Quiet) :
    l.base topic partition = q := by
  rcases h.phase with ⟨-, hbase⟩ | ⟨j, rs, hj, -⟩
  · exact hbase
  · rw [quiet j] at hj
    cases hj

theorem read (h : Orderly topic partition s l q) (hs : Sound topic partition s l) (i : ι)
    (quiet : s.Quiet) : Orderly topic partition (s.step process (.read i)) l q := by
  have hbase := h.base_of_quiet quiet
  have hread := hs.read_eq i
  rw [hbase, Nat.max_eq_right (h.position i)] at hread
  have hposition {p : Poller} (hp : p.consumer.position ≤ q) :=
    forall_put (fun p => p.consumer.position ≤ q) s (i := i) hp fun j _ => h.position j
  rw [step]
  split
  · rename_i hi
    rw [quiet i] at hi
    cases hi
  · exact ⟨h.handed, h.le, hposition (h.position i),
      Or.inl ⟨forall_put (fun p => p.batch = none) s rfl fun j _ => quiet j, hbase⟩⟩
  · rename_i r rest _ hrest
    refine ⟨h.handed, h.le, hposition (h.position i), Or.inr ⟨i, r :: rest, ?_, fun j hji => ?_,
      ?_, Nat.le_of_eq hbase, fun e => absurd e (List.cons_ne_nil r rest)⟩⟩
    · rw [put_pollers_self]
    · rw [put_pollers_ne s hji]
      exact quiet j
    · have hbatch : r :: rest = (l.log topic partition).drop q := hrest.symm.trans hread
      exact hbatch ▸ List.prefix_refl (r :: rest)

omit [DecidableEq ι] in
/-- There is one batch at most, and it begins where the consumers are. -/
theorem batch_unique (h : Orderly topic partition s l q) {i : ι} {rs : List Record}
    (hi : (s.pollers i).batch = some rs) :
    (∀ j, j ≠ i → (s.pollers j).batch = none) ∧ rs <+: (l.log topic partition).drop q ∧
      l.base topic partition ≤ q ∧ (rs = [] → (s.pollers i).consumer.position = q) := by
  rcases h.phase with ⟨quiet, -⟩ | ⟨j, rs', hj, hothers, hrest⟩
  · rw [quiet i] at hi
    cases hi
  · have hij : i = j := by
      refine Classical.byContradiction fun hne => ?_
      rw [hothers i hne] at hi
      cases hi
    subst hij
    rw [hi] at hj
    cases hj
    exact ⟨hothers, hrest⟩

theorem handle (h : Orderly topic partition s l q) {i : ι} {r : Record} {rest : List Record}
    (hi : (s.pollers i).batch = some (r :: rest)) :
    Orderly topic partition (s.step process (.handle i)) l (q + 1) := by
  obtain ⟨hothers, ⟨more, hmore⟩, hbase, -⟩ := h.batch_unique hi
  have hdrop : (l.log topic partition).drop q = r :: (rest ++ more) := hmore.symm
  have hposition : r.offset + 1 = q + 1 := congrArg (· + 1) (Ledger.offset_of_drop hdrop)
  rw [step_handle process hi]
  refine ⟨?_, Ledger.lt_endOffset_of_drop hdrop, ?_, Or.inr ⟨i, rest, ?_, ?_, ⟨more, ?_⟩,
    Nat.le_succ_of_le hbase, fun _ => ?_⟩⟩
  · rw [Ledger.take_succ_of_drop hdrop, ← h.handed]
    exact List.map_append
  · exact forall_put (fun p => p.consumer.position ≤ q + 1) s (Nat.le_of_eq hposition) fun j _ =>
      Nat.le_succ_of_le (h.position j)
  · exact congrArg Poller.batch (put_pollers_self s i _)
  · intro j hj
    exact (congrArg Poller.batch (put_pollers_ne s hj _)).trans (hothers j hj)
  · rw [← List.drop_drop, hdrop]
    rfl
  · exact (congrArg (fun p : Poller => p.consumer.position) (put_pollers_self s i _)).trans
      hposition

theorem commit (h : Orderly topic partition s l q) {i : ι} (hi : (s.pollers i).batch = some []) :
    Orderly topic partition (s.step process (.commit i))
      (l.commit topic partition (s.pollers i).consumer.position) q := by
  obtain ⟨hothers, -, hbase, hdone⟩ := h.batch_unique hi
  rw [step_commit process hi, hdone rfl]
  refine ⟨h.handed, h.le, ?_, Or.inl ⟨?_, ?_⟩⟩
  · exact forall_put (fun p => p.consumer.position ≤ q) s (h.position i) fun j _ => h.position j
  · exact forall_put (fun p => p.batch = none) s rfl hothers
  · rw [Ledger.base_commit_self, Ledger.committed, Nat.min_eq_left h.le, Nat.max_eq_right hbase]

/-- **One event keeps polls that come one at a time in order.** -/
theorem step (h : Orderly topic partition s l q) (hs : Sound topic partition s l) {l' : Ledger}
    (hl : l.SameRecords l') (e : Event ι)
    (hop : ∀ offset, e ≠ .operation (.commit topic partition offset))
    (quiet : ∀ i, e = .read i → s.Quiet) :
    ∃ m q', Sound topic partition (s.step process e) m ∧
      Orderly topic partition (s.step process e) m q' ∧
      m.SameRecords (l'.run (operations [e])) := by
  cases e with
  | operation op =>
    have hop' : ∀ offset, op ≠ .commit topic partition offset := fun offset e =>
      hop offset (congrArg Event.operation e)
    exact ⟨_, q, hs.operation process op hop', h.operation process op hop', hl.apply op⟩
  | read i => exact ⟨l, q, hs.read process i, h.read process hs i (quiet i rfl), hl⟩
  | handle i =>
    by_cases hi : ∃ r rest, (s.pollers i).batch = some (r :: rest)
    · obtain ⟨r, rest, hi⟩ := hi
      exact ⟨l, q + 1, hs.handle process i, h.handle process hi, hl⟩
    · have hne : ∀ r rest, (s.pollers i).batch ≠ some (r :: rest) := fun r rest e =>
        hi ⟨r, rest, e⟩
      rw [step_handle_of_ne process hne]
      exact ⟨l, q, hs, h, hl⟩
  | commit i =>
    by_cases hi : (s.pollers i).batch = some []
    · exact ⟨_, q, hs.commit process hi, h.commit process hi, hl.commit _ _ _⟩
    · rw [step_commit_of_ne process hi]
      exact ⟨l, q, hs, h, hl⟩

end Orderly

section Runs

variable {topic : String} {partition : Nat} {s : Contest ι σ} {l l' : Ledger} [DecidableEq ι]
  (process : ι → Processing σ)

theorem orderly_run {q : Nat} (h : Orderly topic partition s l q) (hs : Sound topic partition s l)
    (hl : l.SameRecords l') (events : List (Event ι))
    (only : ∀ offset, .operation (.commit topic partition offset) ∉ events)
    (one : OneAtATime process s events) :
    ∃ m q', Sound topic partition (s.run process events) m ∧
      Orderly topic partition (s.run process events) m q' ∧
      m.SameRecords (l'.run (operations events)) := by
  induction events generalizing s l l' q with
  | nil => exact ⟨l, q, hs, h, hl⟩
  | cons e events ih =>
    obtain ⟨m, q', hm, hq', hml⟩ := h.step process hs hl e
      (fun offset he => only offset (he ▸ List.mem_cons_self)) one.head
    rw [operations_cons, Ledger.run, List.foldl_append]
    exact ih hq' hm hml (fun offset he => only offset (List.mem_cons_of_mem _ he)) one.tail

/-! ## 3. The last poll -/

/-- **All records of a log have been handed over**, or somebody has a batch with the rest. -/
def Finishing (who : Option ι) (log : List Record) (s : Contest ι σ) : Prop :=
  s.handed.map Prod.snd = log ∨
    ∃ i ∈ who, ∃ rs, (s.pollers i).batch = some rs ∧ s.handed.map Prod.snd ++ rs = log

/-- A poll that begins when no other is under way reads the rest of the log. -/
theorem Orderly.finishing_read {q : Nat} (h : Orderly topic partition s l q)
    (hs : Sound topic partition s l) (quiet : s.Quiet) (i : ι) :
    Finishing (some i) (l.log topic partition) (s.step process (.read i)) := by
  have hread := hs.read_eq i
  have hsplit := List.take_append_drop q (l.log topic partition)
  rw [h.base_of_quiet quiet, Nat.max_eq_right (h.position i)] at hread
  rw [Contest.step]
  split
  · rename_i hi
    rw [quiet i] at hi
    cases hi
  · rename_i hnil
    rw [← hread, hnil, List.append_nil] at hsplit
    exact Or.inl (h.handed.trans hsplit)
  · rename_i r rest _ hrest
    refine Or.inr ⟨i, rfl, r :: rest, congrArg Poller.batch (put_pollers_self s i _), ?_⟩
    rw [← hrest, hread]
    exact (congrArg (· ++ _) h.handed).trans hsplit

/-- An event that is no publication keeps it so. -/
theorem Orderly.finishing_step {q : Nat} (h : Orderly topic partition s l q) {who : Option ι}
    (hf : Finishing who (l.log topic partition) s) (e : Event ι)
    (quiet : ∀ i, e = .read i → s.Quiet) :
    Finishing who (l.log topic partition) (s.step process e) := by
  cases e with
  | operation op => exact hf
  | read i =>
    rcases hf with hall | ⟨j, -, rs, hj, -⟩
    · left
      rw [← hall, Contest.step]
      split
      · rfl
      · rfl
      · rfl
    · rw [quiet i rfl j] at hj
      cases hj
  | handle i =>
    by_cases hi : ∃ r rest, (s.pollers i).batch = some (r :: rest)
    · obtain ⟨r, rest, hi⟩ := hi
      obtain ⟨hothers, ⟨more, hmore⟩, -, -⟩ := h.batch_unique hi
      have hsplit := List.take_append_drop q (l.log topic partition)
      rw [← h.handed, ← hmore] at hsplit
      rw [step_handle process hi]
      rcases hf with hall | ⟨j, hj, rs, hrs, hall⟩
      · -- nothing of the log is left, so there is nothing to handle
        have hlen := congrArg List.length hsplit
        rw [hall, List.length_append, List.length_append, List.length_cons] at hlen
        omega
      · have hij : j = i := Classical.byContradiction fun hne => by
          rw [hothers j hne] at hrs
          cases hrs
        rw [hij, hi] at hrs
        cases hrs
        refine Or.inr ⟨i, hij ▸ hj, rest, congrArg Poller.batch (put_pollers_self s i _), ?_⟩
        rw [← hall]
        simp [took]
    · have hne : ∀ r rest, (s.pollers i).batch ≠ some (r :: rest) := fun r rest e =>
        hi ⟨r, rest, e⟩
      rwa [step_handle_of_ne process hne]
  | commit i =>
    by_cases hi : (s.pollers i).batch = some []
    · left
      rw [step_commit process hi]
      rcases hf with hall | ⟨j, -, rs, hrs, hall⟩
      · exact hall
      · have hij : j = i := Classical.byContradiction fun hne => by
          rw [(h.batch_unique hi).1 j hne] at hrs
          cases hrs
        rw [hij, hi] at hrs
        cases hrs
        rw [List.append_nil] at hall
        exact hall
    · rwa [step_commit_of_ne process hi]

omit [DecidableEq ι] in
/-- What is not published on a topic does not change its logs. -/
theorem log_run_of_silent (l : Ledger) (ops : List Operation)
    (silent : ∀ key payload, .publish topic key payload ∉ ops) :
    (l.run ops).log topic partition = l.log topic partition := by
  induction ops generalizing l with
  | nil => rfl
  | cons op ops ih =>
    rw [Ledger.run, List.foldl_cons, ← Ledger.run,
      ih _ fun key payload h => silent key payload (List.mem_cons_of_mem _ h)]
    cases op with
    | publish t key payload =>
      have hne : t ≠ topic := fun e => silent key payload (e ▸ List.mem_cons_self)
      refine l.log_apply_of_place _ fun e => hne ?_
      exact congrArg Prod.fst (Option.some.inj e)
    | commit _ _ _ => rfl
    | read _ _ _ => rfl
    | setFailing _ => rfl

theorem finishing_run {q : Nat} (h : Orderly topic partition s l q) (hs : Sound topic partition s l)
    (events : List (Event ι))
    (only : ∀ offset, .operation (.commit topic partition offset) ∉ events)
    (one : OneAtATime process s events)
    (silent : ∀ key payload, .publish topic key payload ∉ operations events) {who : Option ι}
    (hf : Finishing who (l.log topic partition) s) :
    Finishing who (l.log topic partition) (s.run process events) := by
  induction events generalizing s l q with
  | nil => exact hf
  | cons e events ih =>
    obtain ⟨m, q', hm, hq', hml⟩ := h.step process hs (.refl l) e
      (fun offset he => only offset (he ▸ List.mem_cons_self)) one.head
    rw [operations_cons] at silent
    have hlog : m.log topic partition = l.log topic partition :=
      (hml.log_eq topic partition).trans (log_run_of_silent l _ fun key payload he =>
        silent key payload (List.mem_append_left _ he))
    have hnext := h.finishing_step process hf e one.head
    rw [← hlog] at hnext ⊢
    exact ih hq' hm (fun offset he => only offset (List.mem_cons_of_mem _ he)) one.tail
      (fun key payload he => silent key payload (List.mem_append_right _ he)) hnext

end Runs

/-! ## 4. Competing consumers -/

section Competing

variable {topic : String} {partition : Nat} {s : Contest ι σ} {l : Ledger} {r : Record}

/-- A poll that began after the last publication on a topic is over. -/
def PolledLast [DecidableEq ι] (process : ι → Processing σ) (s : Contest ι σ) (topic : String)
    (events : List (Event ι)) : Prop :=
  ∃ before i during after, events = before ++ .read i :: (during ++ after) ∧
    ((s.run process (before ++ .read i :: during)).pollers i).batch = none ∧
    ∀ key payload, .publish topic key payload ∉ operations (during ++ after)

theorem Orderly.handed_of_polledLast [DecidableEq ι] {process : ι → Processing σ} {q : Nat}
    (h : Orderly topic partition s l q) (hs : Sound topic partition s l) {events : List (Event ι)}
    (only : ∀ offset, .operation (.commit topic partition offset) ∉ events)
    (one : OneAtATime process s events) (last : PolledLast process s topic events) :
    (s.run process events).handed.map Prod.snd =
      (l.run (operations events)).log topic partition := by
  obtain ⟨before, i, during, after, rfl, idle, silent⟩ := last
  have honly {es : List (Event ι)} (hes : ∀ e ∈ es, e ∈ before ++ .read i :: (during ++ after))
      (offset : Nat) : .operation (.commit topic partition offset) ∉ es := fun he =>
    only offset (hes _ he)
  have hsilent {es : List (Event ι)} (hes : ∀ e ∈ es, e ∈ during ++ after) (key : String)
      (payload : Bytes) : .publish topic key payload ∉ operations es := fun he => by
    obtain ⟨e, he, hop⟩ := List.mem_filterMap.mp he
    exact silent key payload (List.mem_filterMap.mpr ⟨e, hes e he, hop⟩)
  obtain ⟨one₁, one₂⟩ := one.of_append
  obtain ⟨one₃, one₄⟩ := one₂.tail.of_append
  -- up to the read
  obtain ⟨m, q₁, hm, hq₁, hml⟩ := orderly_run process h hs (.refl l) before
    (honly fun e he => List.mem_append_left _ he) one₁
  have quiet := one₂.head i rfl
  have hread := hq₁.finishing_read process hm quiet i
  have hq₂ := hq₁.read process hm i quiet
  have hm₂ := hm.read process i
  -- up to the end of the poll
  have honly₃ := @honly during fun e he => by simp [he]
  have hsilent₃ := @hsilent during fun e he => List.mem_append_left _ he
  have hduring := finishing_run process hq₂ hm₂ during honly₃ one₃ hsilent₃ hread
  obtain ⟨m₃, q₃, hm₃, hq₃, hml₃⟩ := orderly_run process hq₂ hm₂ (.refl m) during honly₃ one₃
  have hlog₃ : m₃.log topic partition = m.log topic partition :=
    (hml₃.log_eq topic partition).trans (log_run_of_silent m _ hsilent₃)
  have hall : Finishing none (m₃.log topic partition)
      (((s.run process before).step process (.read i)).run process during) := by
    rw [run_append] at idle
    rcases hduring with hall | ⟨j, hj, rs, hrs, -⟩
    · exact Or.inl (hall.trans hlog₃.symm)
    · cases Option.some.inj hj
      exact absurd (hrs.symm.trans idle) (by simp)
  -- up to the end
  have hend := finishing_run process hq₃ hm₃ after (honly fun e he => by simp [he]) one₄
    (hsilent fun e he => List.mem_append_right _ he) hall
  have hlog : (l.run (operations (before ++ .read i :: (during ++ after)))).log topic partition =
      m₃.log topic partition := by
    have hops : operations (before ++ .read i :: (during ++ after)) =
        operations before ++ operations (during ++ after) := List.filterMap_append
    rw [hops, Ledger.run, List.foldl_append, ← Ledger.run, ← Ledger.run,
      log_run_of_silent _ _ (hsilent fun e he => he), hlog₃]
    exact (hml.log_eq topic partition).symm
  have hrun : s.run process (before ++ .read i :: (during ++ after)) =
      (((s.run process before).step process (.read i)).run process during).run process after := by
    rw [run_append, ← run_append _ _ during after]
    rfl
  rw [hlog, hrun]
  rcases hend with hend | ⟨j, hj, -⟩
  · exact hend
  · cases hj

/-- **Competing consumers lose no record**: any number of them, on a partition of a new transport
    that nobody else commits, with any interleaving of publications with the steps of their polls.
    If polls come one at a time, no record is handed over twice, and once a poll that followed the
    last publication is over every record has been handed over. -/
theorem competing_run [DecidableEq ι] (n : Nat) (process : ι → Processing σ) (topic : String)
    (partition : Nat) (s₀ : σ) (events : List (Event ι))
    (only : ∀ offset, .operation (.commit topic partition offset) ∉ events) :
    let log := ((Ledger.empty (max n 1)).run (operations events)).log topic partition
    let start : Contest ι σ := .start ι n topic partition s₀
    let s := start.run process events
    (∀ r ∈ log, r ∉ s.transport.read topic partition 0 → ∃ i, (i, r) ∈ s.handed) ∧
    (∀ i, ∀ r ∈ log, r.offset < (s.pollers i).consumer.position → ∃ j, (j, r) ∈ s.handed) ∧
    (OneAtATime process start events →
      (s.handed.map Prod.snd).Nodup ∧ s.handed.map Prod.snd <+: log ∧
      (PolledLast process start topic events → s.handed.map Prod.snd = log)) := by
  intro log start s
  have hstart : Sound topic partition start (.empty (max n 1)) := sound_start n topic partition s₀
  obtain ⟨m, hm, hsame⟩ := sound_run process hstart (.refl _) events only
  have hlog : m.log topic partition = log := hsame.log_eq topic partition
  refine ⟨fun r hr hread => ?_, fun i r hr hlt => ?_, fun one => ?_⟩
  · exact hm.handed_of_released (hlog ▸ hr) hread
  · exact (hm.pollers i).position.handed r (mem_take_of_offset_lt (hlog ▸ hr) hlt)
  · have horderly : Orderly topic partition start (.empty (max n 1)) 0 :=
      orderly_start n topic partition s₀
    obtain ⟨m', q, -, hq, hsame'⟩ := orderly_run process horderly hstart (.refl _) events only one
    have hhanded : s.handed.map Prod.snd = log.take q :=
      hq.handed.trans (congrArg (List.take q) (hsame'.log_eq topic partition))
    refine ⟨?_, ?_, horderly.handed_of_polledLast hstart only one⟩
    · rw [hhanded]
      exact (Ledger.nodup_log _ topic partition).sublist (List.take_sublist _ _)
    · rw [hhanded]
      exact List.take_prefix _ _

/-- Two consumers that take turns: a record arrives during the poll of the first, and the second
    handles it although its store refuses everything. -/
theorem competing_run_turns :
    let events : List (Event Bool) :=
      [.operation (.publish "t" "1" [1]), .read false, .operation (.publish "t" "2" []),
        .handle false, .commit false, .read true, .handle true, .commit true]
    let process : Bool → Processing Nat := fun b _ n =>
      if b then (.error (.store "store offline"), n) else (.ok (), n + 1)
    let start : Contest Bool Nat := .start Bool 1 "t" 0 0
    (∀ offset, .operation (.commit "t" 0 offset) ∉ events) ∧ OneAtATime process start events ∧
      PolledLast process start "t" events ∧
      (start.run process events).handed.map Prod.snd =
        ((Ledger.empty 1).run (operations events)).log "t" 0 := by
  intro events process start
  have only : ∀ offset, .operation (.commit "t" 0 offset) ∉ events := by simp [events]
  have one : OneAtATime process start events := by
    refine .cons nofun <| .cons (fun _ _ => ?_) <| .cons nofun <| .cons nofun <| .cons nofun <|
      .cons (fun _ _ => ?_) <| .cons nofun <| .cons nofun .nil
    · intro i
      rfl
    · intro i
      cases i
      · decide +kernel
      · decide +kernel
  have last : PolledLast process start "t" events := by
    refine ⟨events.take 5, true, events.drop 6, [], rfl, ?_, by simp [events, operations]⟩
    decide +kernel
  exact ⟨only, one, last, ((competing_run 1 process "t" 0 0 events only).2.2 one).2.2 last⟩

/-- Two consumers whose polls overlap: both handle the record. -/
example :
    let events : List (Event Bool) :=
      [.operation (.publish "t" "1" [1]), .read false, .read true, .handle true, .handle false]
    ((Contest.start Bool 1 "t" 0 0).run (fun _ _ n => (.ok (), n + 1)) events).handed =
      [(true, ⟨"t", 0, 0, 0, "1", [1]⟩), (false, ⟨"t", 0, 0, 0, "1", [1]⟩)] := by
  decide +kernel

end Competing

end Contest

end

end Catalogue
