import Catalogue.Entity.Violation
import Catalogue.Json.Record

/-!
# Recommendations

A recommendation belongs to a product and is known among the product's recommendations by its own
id. Its summary is the same without the parent and the serving instance.

* `Recommendation`, `RecommendationSummary` -- the two shapes;
* `Recommendation.summary`, `RecommendationSummary.under` -- from one to the other
  (`summary_under`: nothing is lost on the way there and back);
* `RecommendationSummary.validate` -- the rules for a new recommendation.
-/

namespace Catalogue

/-- A recommendation of a product. -/
structure Recommendation where
  parentItemId : ItemId
  /-- Unique within the parent. -/
  recommendationId : Int64
  author : String
  rating : Int32
  content : String
  /-- The instance that served this recommendation. -/
  serviceAddress : Option String
  deriving DecidableEq, Repr

/-- A recommendation without its parent and address. -/
structure RecommendationSummary where
  recommendationId : Int64
  author : String
  rating : Int32
  content : String
  deriving DecidableEq, Repr

/-- The recommendation without its parent and address. -/
def Recommendation.summary (r : Recommendation) : RecommendationSummary :=
  ⟨r.recommendationId, r.author, r.rating, r.content⟩

namespace RecommendationSummary

/-- The recommendation under a parent, as it is written. -/
def under (r : RecommendationSummary) (parent : ItemId) : Recommendation :=
  ⟨parent, r.recommendationId, r.author, r.rating, r.content, none⟩

/-- The id is positive and the rating between zero and five; the id is checked first. -/
def validate (r : RecommendationSummary) : Except Violation Unit :=
  if r.recommendationId.toInt < 1 then .error (.recommendationId r.recommendationId.toInt)
  else if r.rating.toInt < 0 ∨ 5 < r.rating.toInt then .error (.rating r.rating.toInt)
  else .ok ()

@[simp] theorem summary_under (r : RecommendationSummary) (parent : ItemId) :
    (r.under parent).summary = r := rfl

end RecommendationSummary

namespace Json

/-- The members of a recommendation. -/
def recommendationFields := Fields.required "parentItemId" Codec.itemId <|
  .required "recommendationId" Codec.int64 <|
  .required "author" Codec.text <|
  .required "rating" Codec.int32 <|
  .required "content" Codec.text <|
  .optional "serviceAddress" .null Codec.text .nil

/-- A recommendation. -/
def Codec.recommendation : Codec Recommendation :=
  Codec.record "Recommendation" recommendationFields
    (fun (parent, id, author, rating, content, address, ()) =>
      ⟨parent, id, author, rating, content, address⟩)
    (fun r => (r.parentItemId, r.recommendationId, r.author, r.rating, r.content,
      r.serviceAddress, ()))

/-- The members of a recommendation's summary. -/
def recommendationSummaryFields := Fields.required "recommendationId" Codec.int64 <|
  .required "author" Codec.text <|
  .required "rating" Codec.int32 <|
  .required "content" Codec.text .nil

/-- The summary of a recommendation. -/
def Codec.recommendationSummary : Codec RecommendationSummary :=
  Codec.record "RecommendationSummary" recommendationSummaryFields
    (fun (id, author, rating, content, ()) => ⟨id, author, rating, content⟩)
    (fun r => (r.recommendationId, r.author, r.rating, r.content, ()))

end Json

end Catalogue
