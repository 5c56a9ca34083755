import Catalogue.Entity.Violation
import Catalogue.Json.Record

/-!
# Reviews

A review belongs to a product and is known among the product's reviews by its own id. Its summary
is the same without the parent and the serving instance.

* `Review`, `ReviewSummary` -- the two shapes;
* `Review.summary`, `ReviewSummary.under` -- from one to the other;
* `ReviewSummary.validate` -- the rule for a new review.
-/

namespace Catalogue

/-- A review of a product. -/
structure Review where
  parentItemId : ItemId
  /-- Unique within the parent. -/
  reviewId : Int64
  author : String
  subject : String
  content : String
  /-- The instance that served this review. -/
  serviceAddress : Option String
  deriving DecidableEq, Repr

/-- A review without its parent and address. -/
structure ReviewSummary where
  reviewId : Int64
  author : String
  subject : String
  content : String
  deriving DecidableEq, Repr

/-- The review without its parent and address. -/
def Review.summary (r : Review) : ReviewSummary := ⟨r.reviewId, r.author, r.subject, r.content⟩

namespace ReviewSummary

/-- The review under a parent, as it is written. -/
def under (r : ReviewSummary) (parent : ItemId) : Review :=
  ⟨parent, r.reviewId, r.author, r.subject, r.content, none⟩

/-- The id is positive. -/
def validate (r : ReviewSummary) : Except Violation Unit :=
  if r.reviewId.toInt < 1 then .error (.reviewId r.reviewId.toInt) else .ok ()

@[simp] theorem summary_under (r : ReviewSummary) (parent : ItemId) :
    (r.under parent).summary = r := rfl

end ReviewSummary

namespace Json

/-- The members of a review. -/
def reviewFields := Fields.required "parentItemId" Codec.itemId <|
  .required "reviewId" Codec.int64 <|
  .required "author" Codec.text <|
  .required "subject" Codec.text <|
  .required "content" Codec.text <|
  .optional "serviceAddress" .null Codec.text .nil

/-- A review. -/
def Codec.review : Codec Review :=
  Codec.record "Review" reviewFields
    (fun (parent, id, author, subject, content, address, ()) =>
      ⟨parent, id, author, subject, content, address⟩)
    (fun r => (r.parentItemId, r.reviewId, r.author, r.subject, r.content, r.serviceAddress, ()))

/-- The members of a review's summary. -/
def reviewSummaryFields := Fields.required "reviewId" Codec.int64 <|
  .required "author" Codec.text <|
  .required "subject" Codec.text <|
  .required "content" Codec.text .nil

/-- The summary of a review. -/
def Codec.reviewSummary : Codec ReviewSummary :=
  Codec.record "ReviewSummary" reviewSummaryFields
    (fun (id, author, subject, content, ()) => ⟨id, author, subject, content⟩)
    (fun r => (r.reviewId, r.author, r.subject, r.content, ()))

end Json

end Catalogue
