import Catalogue.Entity.Aggregate
import Catalogue.Proofs.Event.RoundTrip

/-!
# What is shown can be read

A composite view survives its way as JSON: it holds lists of records, and a list of what is read
back is read back itself.

* `readElements_flatMap`, `readElements_joinParts` -- the elements of a written list;
* `Codec.Faithful.list` -- a list, one bracket deeper than its elements, if none of these looks like
  the end of the list;
* `faithful_recommendationSummary`, `faithful_reviewSummary` -- the elements,
  `faithful_aggregate` -- the view, three brackets deep.
-/

namespace Catalogue.Json

/-! ## 1. Lists -/

section

variable {α : Type} {c : Codec α} {depth budget : Nat}

theorem delimited_bracket (t : Bytes) : Delimited (0x5D :: t) := by simp [Delimited, isDigit]

/-- What stands behind an element ends a number. -/
theorem delimited_elements (parts : List Bytes) (rest : Bytes) :
    Delimited (parts.flatMap (fun q => 0x2C :: q) ++ 0x5D :: rest) := by
  cases parts with
  | nil => exact delimited_bracket rest
  | cons q parts => exact delimited_comma _

/-- A list goes on where an element stands behind a comma, or at the front. -/
theorem nextElement_write (h : c.Faithful depth) (hclose : ∀ a t, c.write a ≠ 0x5D :: t) (a : α)
    (t : Bytes) :
    nextElement true (c.write a ++ t) = .ok (some (c.write a ++ t)) ∧
      nextElement false (0x2C :: (c.write a ++ t)) = .ok (some (c.write a ++ t)) := by
  obtain ⟨b, u, hb, hblank, -⟩ := h.head a
  have hne : b ≠ 0x5D := fun e => hclose a u (e ▸ hb)
  have hcomma : isJsonBlank 0x2C = false := by decide
  rw [hb, List.cons_append]
  constructor
  · simp only [nextElement, skipBlank_cons hblank, if_neg hne, if_true]
  · simp only [nextElement, skipBlank_cons hcomma, skipBlank_cons hblank, if_neg hne]
    rfl

theorem readElements_flatMap (h : c.Faithful depth) (hclose : ∀ a t, c.write a ≠ 0x5D :: t)
    (hle : depth ≤ budget) (as : List α) {acc : List α} (hacc : acc.isEmpty = false)
    (fuel rest : Bytes) (hfuel : as.length < fuel.length) :
    readElements (c.read budget) fuel acc
        ((as.map c.write).flatMap (fun q => 0x2C :: q) ++ 0x5D :: rest) =
      .ok (acc.reverse ++ as, rest) := by
  induction as generalizing acc fuel with
  | nil =>
    obtain ⟨b, fuel, rfl⟩ := List.exists_cons_of_length_pos hfuel
    have hend : nextElement false (0x5D :: rest) = .ok none := rfl
    have hclosed : closeList (0x5D :: rest) = .ok rest := rfl
    simp only [List.map_nil, List.flatMap_nil, List.nil_append, readElements, hacc, hend,
      hclosed, Except.map, List.append_nil]
  | cons a as ih =>
    obtain ⟨b, fuel, rfl⟩ := List.exists_cons_of_length_pos (Nat.zero_lt_of_lt hfuel)
    have hrest := ih (show (a :: acc).isEmpty = false from rfl) fuel (Nat.lt_of_succ_lt_succ hfuel)
    rw [List.map_cons, List.flatMap_cons, List.cons_append, List.cons_append,
      List.append_assoc]
    simp only [readElements, hacc, (nextElement_write h hclose a _).2,
      h.read_write a hle (delimited_elements _ rest)]
    rw [hrest, List.reverse_cons, List.append_assoc, List.singleton_append]

/-- **The elements of a written list are read back**, if there is fuel for each of them. -/
theorem readElements_joinParts (h : c.Faithful depth) (hclose : ∀ a t, c.write a ≠ 0x5D :: t)
    (hle : depth ≤ budget) (as : List α) (fuel rest : Bytes) (hfuel : as.length < fuel.length) :
    readElements (c.read budget) fuel [] (joinParts (as.map c.write) ++ 0x5D :: rest) =
      .ok (as, rest) := by
  obtain ⟨b, fuel, rfl⟩ := List.exists_cons_of_length_pos (Nat.zero_lt_of_lt hfuel)
  cases as with
  | nil => rfl
  | cons a as =>
    rw [List.map_cons, joinParts_cons, List.append_assoc]
    simp only [readElements, List.isEmpty_nil, (nextElement_write h hclose a _).1,
      h.read_write a hle (delimited_elements _ rest)]
    exact readElements_flatMap h hclose hle as (show [a].isEmpty = false from rfl) fuel rest
      (Nat.lt_of_succ_lt_succ hfuel)

/-- A written list is longer than its number of elements. -/
theorem length_le_joinParts (h : c.Faithful depth) (as : List α) :
    as.length ≤ (joinParts (as.map c.write)).length := by
  have hpos (a : α) : 0 < (c.write a).length := by
    obtain ⟨b, u, hb, -⟩ := h.head a
    rw [hb]
    exact Nat.succ_pos _
  cases as with
  | nil => exact Nat.zero_le _
  | cons a as =>
    have hrest : as.length ≤ ((as.map c.write).flatMap fun q => 0x2C :: q).length := by
      induction as with
      | nil => exact Nat.zero_le _
      | cons a' as ih =>
        simp only [List.map_cons, List.flatMap_cons, List.length_append, List.length_cons]
        omega
    have hfirst := hpos a
    rw [List.map_cons, joinParts_cons, List.length_append, List.length_cons]
    omega

/-- **A list is read back**, one bracket deeper than its elements, if these are and none of them
    looks like the end of the list. -/
theorem Codec.Faithful.list (h : c.Faithful depth) (hclose : ∀ a t, c.write a ≠ 0x5D :: t) :
    c.list.Faithful (depth + 1) where
  read_write as budget rest hle _ := by
    -- the list's own bracket takes one from the budget
    obtain ⟨budget, rfl⟩ : ∃ n, budget = n + 1 := ⟨budget - 1, by omega⟩
    have htext : c.list.write as ++ rest =
        0x5B :: (joinParts (as.map c.write) ++ 0x5D :: rest) := by
      simp only [Codec.list, writeList, List.cons_append, List.append_assoc, List.nil_append]
    have hlength := length_le_joinParts h as
    have hread := readElements_joinParts h hclose (Nat.le_of_succ_le_succ hle) as
      (joinParts (as.map c.write) ++ 0x5D :: rest) rest
      (by rw [List.length_append, List.length_cons]; omega)
    rw [htext]
    simp only [Codec.list, skipBlank_cons (by decide : isJsonBlank 0x5B = false), if_true, hread]
  head as := ⟨0x5B, _, rfl, rfl, by decide⟩

end

/-! ## 2. Views -/

theorem faithful_recommendationSummary : Codec.recommendationSummary.Faithful 1 := by
  refine Codec.Faithful.record "RecommendationSummary" ?_ fun _ => rfl
  simp only [recommendationSummaryFields, Fields.Faithful]
  exact ⟨faithful_int64 0, by decide, faithful_text 0, by decide, faithful_int32 0, by decide,
    faithful_text 0, by decide, trivial⟩

theorem faithful_reviewSummary : Codec.reviewSummary.Faithful 1 := by
  refine Codec.Faithful.record "ReviewSummary" ?_ fun _ => rfl
  simp only [reviewSummaryFields, Fields.Faithful]
  exact ⟨faithful_int64 0, by decide, faithful_text 0, by decide, faithful_text 0, by decide,
    faithful_text 0, by decide, trivial⟩

theorem faithful_serviceAddresses (depth : Nat) : Codec.serviceAddresses.Faithful (depth + 1) := by
  refine Codec.Faithful.record "ServiceAddresses" ?_ fun _ => rfl
  simp only [serviceAddressesFields, Fields.Faithful]
  exact ⟨faithful_text depth, by decide, faithful_text depth, by decide, faithful_text depth,
    by decide, faithful_text depth, by decide, trivial⟩

/-- **A composite view is read back.** -/
theorem faithful_aggregate : Codec.aggregate.Faithful 3 := by
  have hrecommendations : Codec.recommendationSummary.list.Faithful 2 :=
    faithful_recommendationSummary.list fun _ _ h => absurd (List.cons.inj h).1 (by decide)
  have hreviews : Codec.reviewSummary.list.Faithful 2 :=
    faithful_reviewSummary.list fun _ _ h => absurd (List.cons.inj h).1 (by decide)
  refine Codec.Faithful.record "ProductAggregate" ?_ fun _ => rfl
  simp only [aggregateFields, Fields.Faithful]
  exact ⟨faithful_itemId 2, by decide, faithful_text 2, by decide, faithful_int32 2, by decide,
    hrecommendations, by decide, hreviews, by decide, faithful_serviceAddresses 1, by decide,
    trivial⟩

end Catalogue.Json
