/-!
# The three domains

Products, recommendations and reviews are owned by three services. Each domain has a topic for its
change events and a label in metrics.
-/

namespace Catalogue

/-- What a service owns. -/
inductive Domain where
  | product
  | recommendation
  | review
  deriving DecidableEq, Repr

namespace Domain

/-- All domains, in the order in which a call deals with them. -/
def all : List Domain := [.product, .recommendation, .review]

/-- The topic of the domain's change events. -/
def topic : Domain → String
  | .product => "products"
  | .recommendation => "recommendations"
  | .review => "reviews"

/-- The domain's label in metrics. -/
def label : Domain → String
  | .product => "product"
  | .recommendation => "recommendation"
  | .review => "review"

end Domain

end Catalogue
