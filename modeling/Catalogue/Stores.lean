import Catalogue.Consumer
import Catalogue.Domain

/-!
# The stores behind the topics

The services of the three domains keep what they learn from the topics in stores of their own.

* `Stores` -- the three stores;
* `Stores.process` -- a payload from the topic of a domain, applied to the store of that domain;
* `Stores.refuse` -- the same while the store is offline.
-/

namespace Catalogue

/-- A store per domain. -/
structure Stores where
  products : Store Product
  recommendations : Store Recommendation
  reviews : Store Review
  deriving DecidableEq, Repr

namespace Stores

/-- Stores without entities. -/
def empty : Stores := ⟨.empty, .empty, .empty⟩

/-- The store of products among the three. -/
def productAccess : StoreAccess Stores Product :=
  StoreAccess.local_.within products fun store s => { s with products := store }

/-- The store of recommendations among the three. -/
def recommendationAccess : StoreAccess Stores Recommendation :=
  StoreAccess.local_.within recommendations fun store s => { s with recommendations := store }

/-- The store of reviews among the three. -/
def reviewAccess : StoreAccess Stores Review :=
  StoreAccess.local_.within reviews fun store s => { s with reviews := store }

/-- Applies a payload from the topic of a domain to the store of that domain. -/
def process : Domain → Processing Stores
  | .product => processPayload Json.Codec.product productAccess
  | .recommendation => processPayload Json.Codec.recommendation recommendationAccess
  | .review => processPayload Json.Codec.review reviewAccess

/-- What becomes of a payload while the store of the domain is offline. -/
def refuse : Domain → Processing Stores
  | .product => processPayload Json.Codec.product .offline
  | .recommendation => processPayload Json.Codec.recommendation .offline
  | .review => processPayload Json.Codec.review .offline

end Stores

end Catalogue
