import Catalogue.Entity.Creation
import Catalogue.Proofs.Entity.RoundTrip
import Catalogue.Proofs.Event.Values
import Catalogue.Proofs.Json.Optional

/-!
# Documents

All that is sent or stored as JSON, apart from events, and what is lost on the way: nothing.

* `Document` -- the kinds of documents, `Document.codec` -- their JSON form;
* `faithful_createRequest` -- a request, three brackets deep;
* `Document.decode_encode` -- every document is read back;
* `optional_product`, `optional_recommendation`, `optional_review` -- the address of an entity may be
  absent, and is written `null` then;
* `optional_recommendations`, `optional_reviews` -- the lists of a request may be absent, and are left
  out then;
* `documents_readBack` -- all of it.
-/

namespace Catalogue

namespace Json

/-! ## 1. Kinds of documents -/

/-- What is sent or stored. -/
inductive Document where
  | product
  | recommendation
  | review
  | recommendationSummary
  | reviewSummary
  | serviceAddresses
  | aggregate
  | createRequest
  deriving DecidableEq, Repr

namespace Document

/-- What a document holds. -/
def Carried : Document → Type
  | product => Product
  | recommendation => Recommendation
  | review => Review
  | recommendationSummary => RecommendationSummary
  | reviewSummary => ReviewSummary
  | serviceAddresses => ServiceAddresses
  | aggregate => Aggregate
  | createRequest => CreateRequest

/-- The JSON form of a document. -/
def codec : (d : Document) → Codec d.Carried
  | product => Codec.product
  | recommendation => Codec.recommendation
  | review => Codec.review
  | recommendationSummary => Codec.recommendationSummary
  | reviewSummary => Codec.reviewSummary
  | serviceAddresses => Codec.serviceAddresses
  | aggregate => Codec.aggregate
  | createRequest => Codec.createRequest

end Document

/-! ## 2. Reading back -/

/-- **A create request is read back.** -/
theorem faithful_createRequest : Codec.createRequest.Faithful 3 := by
  have hrecommendations : Codec.recommendationSummary.list.Faithful 2 :=
    faithful_recommendationSummary.list fun _ _ h => absurd (List.cons.inj h).1 (by decide)
  have hreviews : Codec.reviewSummary.list.Faithful 2 :=
    faithful_reviewSummary.list fun _ _ h => absurd (List.cons.inj h).1 (by decide)
  refine Codec.Faithful.record "CreateAggregateRequest" ?_ fun _ => rfl
  simp only [createRequestFields, Fields.Faithful]
  exact ⟨faithful_int64 2, by decide, faithful_text 2, by decide, faithful_int32 2, by decide,
    hrecommendations, by decide, hreviews, by decide, trivial⟩

/-- **Every document is read back** from its own text. -/
theorem Document.decode_encode (d : Document) (a : d.Carried) :
    d.codec.decode (d.codec.encode a) = .ok a := by
  cases d with
  | product => exact faithful_product.decode_encode (by decide) a
  | recommendation => exact faithful_recommendation.decode_encode (by decide) a
  | review => exact faithful_review.decode_encode (by decide) a
  | recommendationSummary => exact faithful_recommendationSummary.decode_encode (by decide) a
  | reviewSummary => exact faithful_reviewSummary.decode_encode (by decide) a
  | serviceAddresses => exact (faithful_serviceAddresses 0).decode_encode (by decide) a
  | aggregate => exact faithful_aggregate.decode_encode (by decide) a
  | createRequest => exact faithful_createRequest.decode_encode (by decide) a

/-! ## 3. Members that may be absent -/

theorem optional_product :
    Codec.product.HasOptional "serviceAddress" .null Codec.text Product.serviceAddress := by
  have hdeclared : productFields.Declares "serviceAddress" .null Codec.text _ :=
    .pastRequired _ _ <| .pastRequired _ _ <| .pastRequired _ _ <| .here _
  exact Codec.hasOptional_record "Product" hdeclared settled_productFields (by decide)
    writes_productFields (by decide) fun _ => rfl

theorem optional_recommendation :
    Codec.recommendation.HasOptional "serviceAddress" .null Codec.text
      Recommendation.serviceAddress := by
  have hdeclared : recommendationFields.Declares "serviceAddress" .null Codec.text _ :=
    .pastRequired _ _ <| .pastRequired _ _ <| .pastRequired _ _ <| .pastRequired _ _ <|
      .pastRequired _ _ <| .here _
  exact Codec.hasOptional_record "Recommendation" hdeclared settled_recommendationFields
    (by decide) writes_recommendationFields (by decide) fun _ => rfl

theorem optional_review :
    Codec.review.HasOptional "serviceAddress" .null Codec.text Review.serviceAddress := by
  have hdeclared : reviewFields.Declares "serviceAddress" .null Codec.text _ :=
    .pastRequired _ _ <| .pastRequired _ _ <| .pastRequired _ _ <| .pastRequired _ _ <|
      .pastRequired _ _ <| .here _
  exact Codec.hasOptional_record "Review" hdeclared settled_reviewFields (by decide)
    writes_reviewFields (by decide) fun _ => rfl

theorem settled_recommendationSummary : Codec.recommendationSummary.Settled 1 := by
  refine Codec.Settled.record "RecommendationSummary" ?_ (by decide) _ _
  show recommendationSummaryFields.Settled 0
  exact ⟨settled_int64, settled_text, settled_int32, settled_text, trivial⟩

theorem settled_reviewSummary : Codec.reviewSummary.Settled 1 := by
  refine Codec.Settled.record "ReviewSummary" ?_ (by decide) _ _
  show reviewSummaryFields.Settled 0
  exact ⟨settled_int64, settled_text, settled_text, settled_text, trivial⟩

theorem writes_recommendationSummary : Codec.recommendationSummary.Writes := by
  refine Codec.Writes.record "RecommendationSummary" ?_ _ _
  show recommendationSummaryFields.Writes
  exact ⟨writes_int64, writes_text, writes_int32, writes_text, trivial⟩

theorem writes_reviewSummary : Codec.reviewSummary.Writes := by
  refine Codec.Writes.record "ReviewSummary" ?_ _ _
  show reviewSummaryFields.Writes
  exact ⟨writes_int64, writes_text, writes_text, writes_text, trivial⟩

theorem settled_createRequestFields : createRequestFields.Settled 2 :=
  ⟨settled_int64.mono (by decide) (by decide), settled_text.mono (by decide) (by decide),
    settled_int32.mono (by decide) (by decide), settled_recommendationSummary.list (by decide),
    settled_reviewSummary.list (by decide), trivial⟩

theorem writes_createRequestFields : createRequestFields.Writes :=
  ⟨writes_int64, writes_text, writes_int32, writes_recommendationSummary.list,
    writes_reviewSummary.list, trivial⟩

theorem optional_recommendations :
    Codec.createRequest.HasOptional "recommendations" .omitted Codec.recommendationSummary.list
      CreateRequest.recommendations := by
  have hdeclared : createRequestFields.Declares "recommendations" .omitted
      Codec.recommendationSummary.list _ :=
    .pastRequired _ _ <| .pastRequired _ _ <| .pastRequired _ _ <| .here _
  exact Codec.hasOptional_record "CreateAggregateRequest" hdeclared settled_createRequestFields
    (by decide) writes_createRequestFields (by decide) fun _ => rfl

theorem optional_reviews :
    Codec.createRequest.HasOptional "reviews" .omitted Codec.reviewSummary.list
      CreateRequest.reviews := by
  have hdeclared : createRequestFields.Declares "reviews" .omitted Codec.reviewSummary.list _ :=
    .pastRequired _ _ <| .pastRequired _ _ <| .pastRequired _ _ <| .pastOptional _ _ _ <| .here _
  exact Codec.hasOptional_record "CreateAggregateRequest" hdeclared settled_createRequestFields
    (by decide) writes_createRequestFields (by decide) fun _ => rfl

end Json

open Json in
/-- **Nothing is lost in a document.** Every document is read back from its own text. The members
    that may be absent are told apart from empty ones: the address of an entity is `null` when it is
    absent, a list of a request is left out, and a reader takes both alike. -/
theorem documents_readBack :
    (∀ (d : Document) (a : d.Carried), d.codec.decode (d.codec.encode a) = .ok a) ∧
    Codec.product.HasOptional "serviceAddress" .null Codec.text Product.serviceAddress ∧
    Codec.recommendation.HasOptional "serviceAddress" .null Codec.text
      Recommendation.serviceAddress ∧
    Codec.review.HasOptional "serviceAddress" .null Codec.text Review.serviceAddress ∧
    Codec.createRequest.HasOptional "recommendations" .omitted Codec.recommendationSummary.list
      CreateRequest.recommendations ∧
    Codec.createRequest.HasOptional "reviews" .omitted Codec.reviewSummary.list
      CreateRequest.reviews :=
  ⟨Document.decode_encode, optional_product, optional_recommendation, optional_review,
    optional_recommendations, optional_reviews⟩

/-- A request whose recommendations are `null` and whose reviews are empty, and how it is written. -/
example :
    let t := bytesOf ("\x7b\"reviews\": [ ], \"weight\": -2147483648, \"name\": \"\\u00e9\\\"\", " ++
      "\"recommendations\": null, \"itemId\": 9223372036854775807\x7d")
    let r : CreateRequest := ⟨9223372036854775807, "é\"", -2147483648, none, some []⟩
    Json.Codec.createRequest.decode t = .ok r ∧
      Json.Codec.createRequest.encode r = bytesOf ("\x7b\"itemId\":9223372036854775807," ++
        "\"name\":\"é\\\"\",\"weight\":-2147483648,\"reviews\":[]\x7d") :=
  ⟨rfl, by decide +kernel⟩

end Catalogue
