import Catalogue.Consumer
import Catalogue.Proofs.Transport.Refinement

/-!
# What a poll does

A poll is one fold over the records it reads. This file says so once, for any way of processing
payloads:

* `outcomes`, `replay` -- what processing says of records in order, and the store after it;
* `tally` -- how many of them were applied, and how many failed;
* `Consumer.handleAll_eq` -- handling records is replaying them, tallying them and moving the
  position past the last one;
* `Consumer.poll_of_refines` -- a whole poll against the ledger of the transport.
-/

namespace Catalogue

section

variable {σ : Type}

/-! ## 1. Records in order -/

/-- What processing says of records, one after another. -/
def outcomes (process : Processing σ) : List Record → σ → List (Except ProcessingError Unit)
  | [], _ => []
  | r :: rs, s => (process r.payload s).1 :: outcomes process rs (process r.payload s).2

/-- The store after records have been processed one after another. -/
def replay (process : Processing σ) (rs : List Record) (s : σ) : σ :=
  rs.foldl (fun s r => (process r.payload s).2) s

/-- How many records were applied, and how many failed. -/
def tally (process : Processing σ) (rs : List Record) (s : σ) : PollSummary where
  applied := (outcomes process rs s).countP Except.isOk
  failed := (outcomes process rs s).countP fun o => !o.isOk

theorem outcomes_append (process : Processing σ) (rs rs' : List Record) (s : σ) :
    outcomes process (rs ++ rs') s =
      outcomes process rs s ++ outcomes process rs' (replay process rs s) := by
  induction rs generalizing s with
  | nil => rfl
  | cons r rs ih =>
    rw [List.cons_append, outcomes, ih]
    rfl

theorem replay_append (process : Processing σ) (rs rs' : List Record) (s : σ) :
    replay process (rs ++ rs') s = replay process rs' (replay process rs s) :=
  List.foldl_append

/-- The sum of two summaries. -/
def PollSummary.add (a b : PollSummary) : PollSummary := ⟨a.applied + b.applied, a.failed + b.failed⟩

theorem tally_append (process : Processing σ) (rs rs' : List Record) (s : σ) :
    tally process (rs ++ rs') s =
      (tally process rs s).add (tally process rs' (replay process rs s)) := by
  simp only [tally, outcomes_append, List.countP_append, PollSummary.add]

/-! ## 2. A consumer's records -/

namespace Consumer

/-- Where a consumer stands after records: past the last one. -/
def past (c : Consumer) (rs : List Record) : Consumer :=
  { c with position := (rs.getLast?.map fun r => r.offset + 1).getD c.position }

/-- **Handling records is replaying them, tallying them and moving past the last one.** -/
theorem handleAll_eq (process : Processing σ) (rs : List Record) (c : Consumer)
    (summary : PollSummary) (s : σ) :
    handleAll process rs (c, summary, s) =
      (c.past rs, summary.add (tally process rs s), replay process rs s) := by
  induction rs generalizing c summary s with
  | nil => rfl
  | cons r rs ih =>
    rw [handleAll, handle]
    simp only
    rw [ih]
    refine Prod.ext ?_ (Prod.ext ?_ rfl)
    · cases rs with
      | nil => rfl
      | cons r' rs => simp [past, List.getLast?_cons]
    · cases h : (process r.payload s).1 with
      | ok u =>
        simp [tally, outcomes, List.countP_cons, h, PollSummary.add, Except.isOk, Except.toBool]
        omega
      | error e =>
        simp [tally, outcomes, h, PollSummary.add, Except.isOk, Except.toBool]
        omega

/-- The records at and past an offset that a ledger has not released. -/
def due (c : Consumer) (l : Ledger) : List Record :=
  (l.log c.topic c.partition).drop (max c.position (l.base c.topic c.partition))

theorem due_eq_nil_iff (c : Consumer) (l : Ledger) :
    c.due l = [] ↔
      l.endOffset c.topic c.partition ≤ max c.position (l.base c.topic c.partition) := by
  rw [due, List.drop_eq_nil_iff, Ledger.length_log]

/-- The last record of a partition stands just before its end. -/
theorem past_due (c : Consumer) (l : Ledger) (h : c.due l ≠ []) :
    c.past (c.due l) = { c with position := l.endOffset c.topic c.partition } := by
  have hlt : ¬ l.endOffset c.topic c.partition ≤ max c.position (l.base c.topic c.partition) :=
    fun e => h ((c.due_eq_nil_iff l).mpr e)
  have hlast : (c.due l).getLast? = (l.log c.topic c.partition).getLast? := by
    rw [due, List.getLast?_drop, if_neg (by rwa [Ledger.length_log])]
  have hpos : l.endOffset c.topic c.partition - 1 < (l.appended c.topic c.partition).length := by
    unfold Ledger.endOffset at hlt ⊢
    omega
  rw [past, hlast, List.getLast?_eq_getElem?, Ledger.length_log, Ledger.getElem?_log,
    List.getElem?_eq_getElem hpos]
  simp only [Option.map_some, Option.getD_some]
  congr 1
  omega

/-- **A poll takes what is due, moves to the end and releases what it took.** -/
theorem poll_of_refines {t : Transport} {l : Ledger} (h : Refines t l) (process : Processing σ)
    (c : Consumer) (s : σ) :
    c.poll process t s =
      if c.due l = [] then (c, ⟨0, 0⟩, t, s)
      else ({ c with position := l.endOffset c.topic c.partition }, tally process (c.due l) s,
        (t.commit c.topic c.partition (l.endOffset c.topic c.partition)).1,
        replay process (c.due l) s) := by
  have hread : t.read c.topic c.partition c.position = c.due l := h.read_eq _ _ _
  simp only [poll, hread, handleAll_eq]
  by_cases hdue : c.due l = []
  · rw [if_pos hdue, hdue]
    rfl
  · have hemp : (c.due l).isEmpty = false := by simpa using hdue
    rw [if_neg hdue, hemp, c.past_due l hdue]
    simp [PollSummary.add]

end Consumer

end

end Catalogue
