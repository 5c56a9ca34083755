import Catalogue.Pause
import Catalogue.Reading
import Catalogue.Store

/-!
# Services in the same process

The services of the three domains, held in memory. Each can be made to fail and to take its time;
a service that fails takes its time all the same. The product service answers with the product of an
item or has none; the other two answer with a list, which may be empty.

* `LocalService` -- the entities of a domain with the two settings;
* `LocalServices` -- the three of them, `LocalServices.calls` -- the calls a read makes.
-/

namespace Catalogue

/-- The entities of a service by item, and how it behaves. -/
structure LocalService (α : Type) where
  store : Store α
  failure : Option Failure
  /-- The pause before a call ends, as it is asked for. -/
  delay : Nat

namespace LocalService

variable {α β : Type}

/-- A service without entities, which neither fails nor takes time. -/
def empty : LocalService α := ⟨.empty, none, 0⟩

/-- Puts an entity behind the others of its item. -/
def append [Entity α] (s : LocalService α) (a : α) : LocalService α :=
  { s with store := ⟨Store.updateItem (Entity.itemId a) (· ++ [a]) s.store.entries⟩ }

/-- Puts an entity in the place of all others of its item. -/
def replace [Entity α] (s : LocalService α) (a : α) : LocalService α :=
  { s with store := ⟨Store.updateItem (Entity.itemId a) (fun _ => [a]) s.store.entries⟩ }

/-- A call that ends as the entities of an item say, unless the service fails. -/
def callFor (s : LocalService α) (item : ItemId) (answer : List α → Except Failure β) : Call β where
  delay := pause s.delay
  outcome := match s.failure with
    | some f => .error f
    | none => answer (s.store.find item)
  counters := []

end LocalService

/-- The services of the three domains. -/
structure LocalServices where
  product : LocalService Product
  recommendation : LocalService Recommendation
  review : LocalService Review
  /-- How often the product service was called. -/
  productCalls : Nat

namespace LocalServices

/-- Services without entities. -/
def empty : LocalServices := ⟨.empty, .empty, .empty, 0⟩

/-- An item without a product. -/
def noProduct (item : ItemId) : Failure :=
  ⟨.notFound, "No product found for itemId: " ++ decimalText item.val⟩

/-- The calls of a read. -/
def calls (s : LocalServices) (item : ItemId) : ItemCalls where
  product := s.product.callFor item fun
    | [] => .error (noProduct item)
    | p :: _ => .ok p
  recommendations := s.recommendation.callFor item .ok
  reviews := s.review.callFor item .ok

/-- Notes calls of the product service. -/
def called (s : LocalServices) (n : Nat) : LocalServices :=
  { s with productCalls := s.productCalls + n }

end LocalServices

end Catalogue
