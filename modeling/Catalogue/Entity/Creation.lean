import Catalogue.Entity.Aggregate
import Catalogue.Text.Blank

/-!
# Create requests

A create names a product and the recommendations and reviews that come with it. The numbers of a
request are raw, so that a bad one is a broken rule and not a broken request.

* `CreateRequest` -- what the caller sends; an absent list is told apart from an empty one;
* `CreateRequest.toWrite` -- the rules, checked in a fixed order, and the entities the request
  stands for;
* `AggregateWrite` -- these entities, in the order they were supplied.
-/

namespace Catalogue

/-- The body of a create. -/
structure CreateRequest where
  itemId : Int64
  name : String
  weight : Int32
  recommendations : Option (List RecommendationSummary)
  reviews : Option (List ReviewSummary)
  deriving DecidableEq, Repr

/-- The entities a valid request stands for. -/
structure AggregateWrite where
  product : Product
  recommendations : List Recommendation
  reviews : List Review
  deriving DecidableEq, Repr

/-- The item the write is about. -/
def AggregateWrite.itemId (w : AggregateWrite) : ItemId := w.product.itemId

/-- Checks the elements of a list in order. -/
def checkAll {α : Type} (check : α → Except Violation Unit) : List α → Except Violation Unit
  | [] => .ok ()
  | a :: as =>
    match check a with
    | .error v => .error v
    | .ok () => checkAll check as

/-- The entities the request stands for, or the first rule it breaks: the item id, the name, the
    weight, the recommendations in order, the reviews in order. -/
def CreateRequest.toWrite (r : CreateRequest) : Except Violation AggregateWrite :=
  match ItemId.ofInt r.itemId.toInt with
  | .error n => .error (.itemId n)
  | .ok item =>
    if allBlank r.name then .error .nameRequired
    else if r.weight.toInt < 0 then .error (.weight r.weight.toInt)
    else
      let recommendations := r.recommendations.getD []
      let reviews := r.reviews.getD []
      match checkAll RecommendationSummary.validate recommendations with
      | .error v => .error v
      | .ok () =>
        match checkAll ReviewSummary.validate reviews with
        | .error v => .error v
        | .ok () => .ok
          { product := ⟨item, r.name, r.weight, none⟩
            recommendations := recommendations.map (·.under item)
            reviews := reviews.map (·.under item) }

namespace Json

/-- The members of a create request. -/
def createRequestFields := Fields.required "itemId" Codec.int64 <|
  .required "name" Codec.text <|
  .required "weight" Codec.int32 <|
  .optional "recommendations" .omitted Codec.recommendationSummary.list <|
  .optional "reviews" .omitted Codec.reviewSummary.list .nil

/-- A create request. -/
def Codec.createRequest : Codec CreateRequest :=
  Codec.record "CreateAggregateRequest" createRequestFields
    (fun (itemId, name, weight, recommendations, reviews, ()) =>
      ⟨itemId, name, weight, recommendations, reviews⟩)
    (fun r => (r.itemId, r.name, r.weight, r.recommendations, r.reviews, ()))

end Json

end Catalogue
