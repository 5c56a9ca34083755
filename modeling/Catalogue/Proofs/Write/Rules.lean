import Catalogue.Entity.Creation

/-!
# The rules of a create request

A request is refused for the first rule that it breaks. To say which one that is, all the rules that
it breaks are listed in the order in which they are checked; the check itself stops at the first.

* `broken`, `firstOf` -- the violation of a rule that does not hold, and the first of a list;
* `RecommendationSummary.violations`, `ReviewSummary.violations`, `CreateRequest.violations` -- the
  rules that a value breaks, in order (`validate_eq`, `checkAll_eq`: that is what the checks look
  for);
* `CreateRequest.Valid` -- a request that breaks none (`violations_eq_nil_iff`);
* `CreateRequest.toWrite_cases` -- all that can become of a request;
* `Decomposes` -- what the entities of a request have of it (`Decomposes.unique`: that is all of
  them);
* `Exact`, `exact_toWrite` -- every request.
-/

namespace Catalogue

/-! ## 1. Broken rules, in order -/

/-- The violation of a rule, if the rule does not hold. -/
def broken (rule : Prop) [Decidable rule] (v : Violation) : List Violation :=
  if rule then [] else [v]

theorem broken_eq_nil_iff {rule : Prop} [Decidable rule] {v : Violation} :
    broken rule v = [] ↔ rule := by
  unfold broken
  by_cases h : rule
  · simp [h]
  · simp [h]

/-- The first of some violations, if there is one. -/
def firstOf : List Violation → Except Violation Unit
  | [] => .ok ()
  | v :: _ => .error v

theorem firstOf_ok_iff (vs : List Violation) : firstOf vs = .ok () ↔ vs = [] := by
  cases vs with
  | nil => exact ⟨fun _ => rfl, fun _ => rfl⟩
  | cons v vs => exact ⟨nofun, nofun⟩

theorem firstOf_error_iff (vs : List Violation) (v : Violation) :
    firstOf vs = .error v ↔ vs.head? = some v := by
  cases vs with
  | nil => exact ⟨nofun, nofun⟩
  | cons w vs => simp [firstOf]

theorem firstOf_append (vs vs' : List Violation) :
    firstOf (vs ++ vs') =
      match firstOf vs with
      | .error v => .error v
      | .ok () => firstOf vs' := by
  cases vs with
  | nil => rfl
  | cons v vs => rfl

theorem firstOf_broken (rule : Prop) [Decidable rule] (v : Violation) :
    firstOf (broken rule v) = if rule then .ok () else .error v := by
  unfold broken
  split
  · rfl
  · rfl

theorem firstOf_broken_append (rule : Prop) [Decidable rule] (v : Violation) (vs : List Violation) :
    firstOf (broken rule v ++ vs) = if rule then firstOf vs else .error v := by
  unfold broken
  split
  · rfl
  · rfl

/-- The rules that a recommendation breaks: the id before the rating. -/
def RecommendationSummary.violations (r : RecommendationSummary) : List Violation :=
  broken (1 ≤ r.recommendationId.toInt) (.recommendationId r.recommendationId.toInt) ++
    broken (0 ≤ r.rating.toInt ∧ r.rating.toInt ≤ 5) (.rating r.rating.toInt)

theorem RecommendationSummary.validate_eq (r : RecommendationSummary) :
    r.validate = firstOf r.violations := by
  rw [violations, firstOf_broken_append, firstOf_broken, validate]
  by_cases hid : 1 ≤ r.recommendationId.toInt
  · rw [if_pos hid, if_neg (Int.not_lt.mpr hid)]
    by_cases hrating : 0 ≤ r.rating.toInt ∧ r.rating.toInt ≤ 5
    · rw [if_pos hrating, if_neg (by omega)]
    · rw [if_neg hrating, if_pos (by omega)]
  · rw [if_neg hid, if_pos (Int.not_le.mp hid)]

/-- The rule that a review breaks, if it does. -/
def ReviewSummary.violations (r : ReviewSummary) : List Violation :=
  broken (1 ≤ r.reviewId.toInt) (.reviewId r.reviewId.toInt)

theorem ReviewSummary.validate_eq (r : ReviewSummary) : r.validate = firstOf r.violations := by
  rw [violations, firstOf_broken, validate]
  by_cases hid : 1 ≤ r.reviewId.toInt
  · rw [if_pos hid, if_neg (Int.not_lt.mpr hid)]
  · rw [if_neg hid, if_pos (Int.not_le.mp hid)]

/-- **Checking a list finds the first violation of all its elements.** -/
theorem checkAll_eq {α : Type} {check : α → Except Violation Unit} {violations : α → List Violation}
    (h : ∀ a, check a = firstOf (violations a)) (as : List α) :
    checkAll check as = firstOf (as.flatMap violations) := by
  induction as with
  | nil => rfl
  | cons a as ih =>
    rw [checkAll, h a, ih, List.flatMap_cons]
    exact (firstOf_append _ _).symm

/-- The id of an element comes before its rating, and both before the next element. -/
example :
    let rs : List RecommendationSummary := [⟨1, "ann", 6, "fine"⟩, ⟨0, "ben", -1, "dim"⟩]
    rs.flatMap RecommendationSummary.violations = [.rating 6, .recommendationId 0, .rating (-1)] ∧
      checkAll RecommendationSummary.validate rs = .error (.rating 6) :=
  ⟨by decide, rfl⟩

namespace CreateRequest

/-- **The rules that a request breaks**: the item id, the name, the weight, then those of the
    recommendations one after another, and those of the reviews. -/
def violations (r : CreateRequest) : List Violation :=
  broken (1 ≤ r.itemId.toInt) (.itemId r.itemId.toInt) ++
    (broken (allBlank r.name = false) .nameRequired ++
      (broken (0 ≤ r.weight.toInt) (.weight r.weight.toInt) ++
        ((r.recommendations.getD []).flatMap RecommendationSummary.violations ++
          (r.reviews.getD []).flatMap ReviewSummary.violations)))

theorem allBlank_eq_false_iff (s : String) :
    allBlank s = false ↔ ∃ c ∈ s.toList, isBlank c = false := by
  rw [← Bool.not_eq_true, allBlank_iff]
  simp

/-- **A request that breaks no rule.** -/
structure Valid (r : CreateRequest) : Prop where
  itemId : 1 ≤ r.itemId.toInt
  name : ∃ c ∈ r.name.toList, isBlank c = false
  weight : 0 ≤ r.weight.toInt
  recommendations : ∀ x ∈ r.recommendations.getD [],
    1 ≤ x.recommendationId.toInt ∧ 0 ≤ x.rating.toInt ∧ x.rating.toInt ≤ 5
  reviews : ∀ x ∈ r.reviews.getD [], 1 ≤ x.reviewId.toInt

theorem violations_eq_nil_iff (r : CreateRequest) : r.violations = [] ↔ r.Valid := by
  simp only [violations, RecommendationSummary.violations, ReviewSummary.violations,
    List.append_eq_nil_iff, List.flatMap_eq_nil_iff, broken_eq_nil_iff, allBlank_eq_false_iff]
  constructor
  · intro ⟨hitem, hname, hweight, hrecommendations, hreviews⟩
    exact ⟨hitem, hname, hweight, hrecommendations, hreviews⟩
  · intro h
    exact ⟨h.itemId, h.name, h.weight, h.recommendations, h.reviews⟩

/-! ## 2. What becomes of a request -/

/-- The entities that a request stands for under an item. -/
def entitiesUnder (r : CreateRequest) (item : ItemId) : AggregateWrite where
  product := ⟨item, r.name, r.weight, none⟩
  recommendations := (r.recommendations.getD []).map (·.under item)
  reviews := (r.reviews.getD []).map (·.under item)

/-- **All that can become of a request**: it is refused for the first rule that it breaks, or it breaks
    none and stands for its entities under its item. -/
theorem toWrite_cases (r : CreateRequest) :
    (∃ v, firstOf r.violations = .error v ∧ r.toWrite = .error v) ∨
      firstOf r.violations = .ok () ∧ ∃ item, ItemId.ofInt r.itemId.toInt = .ok item ∧
        r.toWrite = .ok (r.entitiesUnder item) := by
  simp only [violations, firstOf_broken_append]
  simp only [firstOf_append, toWrite, checkAll_eq RecommendationSummary.validate_eq,
    checkAll_eq ReviewSummary.validate_eq]
  cases hitem : ItemId.ofInt r.itemId.toInt with
  | error n =>
    obtain ⟨rfl, hrange⟩ := (ItemId.ofInt_error_iff _ n).mp hitem
    have hhigh := r.itemId.toInt_lt
    exact .inl ⟨_, if_neg (by omega), rfl⟩
  | ok item =>
    have hval := (ItemId.ofInt_ok_iff _ item).mp hitem
    have hpos := item.pos
    simp only [if_pos (show 1 ≤ r.itemId.toInt by omega)]
    by_cases hname : allBlank r.name = false
    · rw [if_pos hname, if_neg (Bool.eq_false_iff.mp hname)]
      by_cases hweight : 0 ≤ r.weight.toInt
      · rw [if_pos hweight, if_neg (Int.not_lt.mpr hweight)]
        cases (firstOf ((r.recommendations.getD []).flatMap RecommendationSummary.violations)) with
        | error v => exact .inl ⟨v, rfl, rfl⟩
        | ok u =>
          cases (firstOf ((r.reviews.getD []).flatMap ReviewSummary.violations)) with
          | error v => exact .inl ⟨v, rfl, rfl⟩
          | ok u => exact .inr ⟨rfl, item, rfl, rfl⟩
      · rw [if_neg hweight, if_pos (Int.not_le.mp hweight)]
        exact .inl ⟨_, rfl, rfl⟩
    · rw [if_neg hname, if_pos (eq_true_of_ne_false hname)]
      exact .inl ⟨_, rfl, rfl⟩

/-- A request that stands for entities breaks no rule. -/
theorem valid_of_toWrite {r : CreateRequest} {w : AggregateWrite} (h : r.toWrite = .ok w) :
    r.Valid := by
  rcases r.toWrite_cases with ⟨v, -, hv⟩ | ⟨hfirst, -⟩
  · cases hv.symm.trans h
  · exact r.violations_eq_nil_iff.mp ((firstOf_ok_iff _).mp hfirst)

/-- What a request stands for, field by field. -/
theorem of_toWrite {r : CreateRequest} {w : AggregateWrite} (h : r.toWrite = .ok w) :
    ∃ item, ItemId.ofInt r.itemId.toInt = .ok item ∧ w = r.entitiesUnder item := by
  rcases r.toWrite_cases with ⟨v, -, hv⟩ | ⟨-, item, hitem, hw⟩
  · cases hv.symm.trans h
  · exact ⟨item, hitem, Except.ok.inj (h.symm.trans hw)⟩

/-- **A request that breaks no rule stands for entities.** -/
theorem exists_toWrite {r : CreateRequest} (h : r.Valid) :
    ∃ item, ItemId.ofInt r.itemId.toInt = .ok item ∧ r.toWrite = .ok (r.entitiesUnder item) := by
  rcases r.toWrite_cases with ⟨v, hfirst, -⟩ | ⟨-, hitem⟩
  · rw [r.violations_eq_nil_iff.mpr h] at hfirst
    cases hfirst
  · exact hitem

theorem toWrite_error_iff (r : CreateRequest) (v : Violation) :
    r.toWrite = .error v ↔ r.violations.head? = some v := by
  rw [← firstOf_error_iff]
  rcases r.toWrite_cases with ⟨w, hfirst, hw⟩ | ⟨hfirst, item, -, hw⟩
  · rw [hfirst, hw, Except.error.injEq, Except.error.injEq]
  · rw [hfirst, hw]
    exact ⟨nofun, nofun⟩

end CreateRequest

/-! ## 3. The entities of a request -/

theorem RecommendationSummary.under_summary {x : Recommendation} {item : ItemId}
    (hparent : x.parentItemId = item) (haddress : x.serviceAddress = none) :
    x.summary.under item = x := by
  subst hparent
  rw [under, ← haddress]
  rfl

theorem ReviewSummary.under_summary {x : Review} {item : ItemId} (hparent : x.parentItemId = item)
    (haddress : x.serviceAddress = none) : x.summary.under item = x := by
  subst hparent
  rw [under, ← haddress]
  rfl

/-- **What the entities of a request have of it**: the product its id, name and weight, the
    recommendations and reviews its lists. All belong to the product, and none has an address. -/
structure Decomposes (r : CreateRequest) (w : AggregateWrite) : Prop where
  itemId : (w.product.itemId.val : Int) = r.itemId.toInt
  name : w.product.name = r.name
  weight : w.product.weight = r.weight
  address : w.product.serviceAddress = none
  recommendations : w.recommendations.map Recommendation.summary = r.recommendations.getD []
  reviews : w.reviews.map Review.summary = r.reviews.getD []
  /-- A list that is absent counts as empty. -/
  lengths : w.recommendations.length = (r.recommendations.getD []).length ∧
    w.reviews.length = (r.reviews.getD []).length
  ofRecommendation : ∀ x ∈ w.recommendations,
    x.parentItemId = w.product.itemId ∧ x.serviceAddress = none
  ofReview : ∀ x ∈ w.reviews, x.parentItemId = w.product.itemId ∧ x.serviceAddress = none

theorem decomposes_entitiesUnder {r : CreateRequest} {item : ItemId}
    (h : (item.val : Int) = r.itemId.toInt) : Decomposes r (r.entitiesUnder item) where
  itemId := h
  name := rfl
  weight := rfl
  address := rfl
  recommendations := by simp [CreateRequest.entitiesUnder, Function.comp_def]
  reviews := by simp [CreateRequest.entitiesUnder, Function.comp_def]
  lengths := ⟨List.length_map _, List.length_map _⟩
  ofRecommendation x hx := by
    obtain ⟨y, -, rfl⟩ := List.mem_map.mp hx
    exact ⟨rfl, rfl⟩
  ofReview x hx := by
    obtain ⟨y, -, rfl⟩ := List.mem_map.mp hx
    exact ⟨rfl, rfl⟩

/-- **No other entities are those of a request.** -/
theorem Decomposes.unique {r : CreateRequest} {w : AggregateWrite} (h : Decomposes r w) :
    w = r.entitiesUnder w.product.itemId := by
  obtain ⟨⟨item, name, weight, address⟩, recommendations, reviews⟩ := w
  have hrecommendations : recommendations = (r.recommendations.getD []).map (·.under item) := by
    rw [← h.recommendations, List.map_map]
    refine (List.map_id recommendations).symm.trans (List.map_congr_left fun x hx => ?_)
    obtain ⟨hparent, haddress⟩ := h.ofRecommendation x hx
    exact (RecommendationSummary.under_summary hparent haddress).symm
  have hreviews : reviews = (r.reviews.getD []).map (·.under item) := by
    rw [← h.reviews, List.map_map]
    refine (List.map_id reviews).symm.trans (List.map_congr_left fun x hx => ?_)
    obtain ⟨hparent, haddress⟩ := h.ofReview x hx
    exact (ReviewSummary.under_summary hparent haddress).symm
  obtain rfl : name = r.name := h.name
  obtain rfl : weight = r.weight := h.weight
  obtain rfl : address = none := h.address
  rw [CreateRequest.entitiesUnder, ← hrecommendations, ← hreviews]

/-! ## 4. Every request -/

/-- **What becomes of a request.** -/
structure Exact (r : CreateRequest) : Prop where
  /-- It stands for entities if it breaks no rule. -/
  succeeds : (∃ w, r.toWrite = .ok w) ↔ r.Valid
  /-- Otherwise it is refused, for the first of the rules that it breaks. -/
  fails : ∀ v, r.toWrite = .error v ↔ r.violations.head? = some v
  /-- The entities are its own, and there is nothing else in them. -/
  stands : ∀ w, r.toWrite = .ok w ↔ r.Valid ∧ Decomposes r w

/-- **The rules are checked exactly, and the entities are those of the request.** -/
theorem exact_toWrite (r : CreateRequest) : Exact r where
  succeeds := by
    constructor
    · intro ⟨w, hw⟩
      exact CreateRequest.valid_of_toWrite hw
    · intro h
      obtain ⟨item, -, hw⟩ := CreateRequest.exists_toWrite h
      exact ⟨_, hw⟩
  fails := r.toWrite_error_iff
  stands w := by
    constructor
    · intro hw
      obtain ⟨item, hitem, rfl⟩ := CreateRequest.of_toWrite hw
      exact ⟨CreateRequest.valid_of_toWrite hw,
        decomposes_entitiesUnder ((ItemId.ofInt_ok_iff _ item).mp hitem).symm⟩
    · intro ⟨hvalid, hw⟩
      obtain ⟨item, hitem, hself⟩ := CreateRequest.exists_toWrite hvalid
      have hown : ItemId.ofInt r.itemId.toInt = .ok w.product.itemId :=
        (ItemId.ofInt_ok_iff _ _).mpr hw.itemId.symm
      rw [hw.unique, hself, Except.ok.inj (hitem.symm.trans hown)]

end Catalogue
