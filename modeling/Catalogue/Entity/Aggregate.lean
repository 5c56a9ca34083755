import Catalogue.Entity.Product
import Catalogue.Entity.Recommendation
import Catalogue.Entity.Review

/-!
# The composite view

A read joins a product with its recommendations and reviews, and names the instances that took
part.

* `Aggregate` -- the view, `ServiceAddresses` -- the instances;
* `Aggregate.assemble` -- the view of a product and two lists. The lists keep their order, and a
  list's address is that of its first element.
-/

namespace Catalogue

/-- The instances that took part in building a view. -/
structure ServiceAddresses where
  /-- The composite instance itself. -/
  composite : String
  product : String
  /-- Empty if there is no recommendation. -/
  recommendation : String
  /-- Empty if there is no review. -/
  review : String
  deriving DecidableEq, Repr

/-- A product with its recommendations and reviews. -/
structure Aggregate where
  itemId : ItemId
  name : String
  weight : Int32
  recommendations : List RecommendationSummary
  reviews : List ReviewSummary
  serviceAddresses : ServiceAddresses
  deriving DecidableEq, Repr

/-- The view of a product and its lists, built by the instance at `address`. -/
def Aggregate.assemble (address : String) (product : Product)
    (recommendations : List Recommendation) (reviews : List Review) : Aggregate where
  itemId := product.itemId
  name := product.name
  weight := product.weight
  recommendations := recommendations.map Recommendation.summary
  reviews := reviews.map Review.summary
  serviceAddresses :=
    { composite := address
      product := product.serviceAddress.getD ""
      recommendation := (recommendations.head?.bind Recommendation.serviceAddress).getD ""
      review := (reviews.head?.bind Review.serviceAddress).getD "" }

namespace Json

/-- The members of the addresses. -/
def serviceAddressesFields := Fields.required "composite" Codec.text <|
  .required "product" Codec.text <|
  .required "recommendation" Codec.text <|
  .required "review" Codec.text .nil

/-- The addresses of the instances. -/
def Codec.serviceAddresses : Codec ServiceAddresses :=
  Codec.record "ServiceAddresses" serviceAddressesFields
    (fun (composite, product, recommendation, review, ()) =>
      ⟨composite, product, recommendation, review⟩)
    (fun a => (a.composite, a.product, a.recommendation, a.review, ()))

/-- The members of a view. -/
def aggregateFields := Fields.required "itemId" Codec.itemId <|
  .required "name" Codec.text <|
  .required "weight" Codec.int32 <|
  .required "recommendations" Codec.recommendationSummary.list <|
  .required "reviews" Codec.reviewSummary.list <|
  .required "serviceAddresses" Codec.serviceAddresses .nil

/-- A composite view. -/
def Codec.aggregate : Codec Aggregate :=
  Codec.record "ProductAggregate" aggregateFields
    (fun (itemId, name, weight, recommendations, reviews, addresses, ()) =>
      ⟨itemId, name, weight, recommendations, reviews, addresses⟩)
    (fun a => (a.itemId, a.name, a.weight, a.recommendations, a.reviews, a.serviceAddresses, ()))

end Json

end Catalogue
