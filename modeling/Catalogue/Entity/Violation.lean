import Catalogue.Item

/-!
# Broken rules

What the caller of a create can get wrong. Every rule has one wording.
-/

namespace Catalogue

/-- A rule of the domain that a value breaks. -/
inductive Violation where
  /-- An item id below one. -/
  | itemId (id : Int)
  /-- A name without a character that is not blank. -/
  | nameRequired
  /-- A negative weight. -/
  | weight (weight : Int)
  /-- A recommendation id below one. -/
  | recommendationId (id : Int)
  /-- A rating outside zero to five. -/
  | rating (rating : Int)
  /-- A review id below one. -/
  | reviewId (id : Int)
  deriving DecidableEq, Repr

/-- The wording of a broken rule. -/
def Violation.message : Violation → String
  | .itemId id => ItemId.invalidText id
  | .nameRequired => "Product name is required"
  | .weight w => "Invalid weight: " ++ integerText w ++ " (must not be negative)"
  | .recommendationId id => "Invalid recommendationId: " ++ integerText id
  | .rating r => "Invalid rating: " ++ integerText r ++ " (must be between 0 and 5)"
  | .reviewId id => "Invalid reviewId: " ++ integerText id

end Catalogue
