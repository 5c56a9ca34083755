import Catalogue.Entity.Product
import Catalogue.Entity.Recommendation
import Catalogue.Entity.Review

/-!
# Entity stores

The service of a domain keeps its entities by item. Among the entities of an item each has an id of
its own, and they are listed in the order in which these ids first came.

* `Entity` -- what a store has to know of an entity: its item and its own id;
* `Store` -- the entities by item, `Store.find` -- those of one item;
* `Store.upsert`, `Store.deleteAll` -- the changes.
-/

namespace Catalogue

/-- What a store has to know of an entity. -/
class Entity (α : Type) where
  /-- The item the entity belongs to. -/
  itemId : α → ItemId
  /-- The id among the entities of the item. -/
  entityId : α → Int

instance : Entity Product := ⟨Product.itemId, fun p => p.itemId.val⟩

instance : Entity Recommendation :=
  ⟨Recommendation.parentItemId, fun r => r.recommendationId.toInt⟩

instance : Entity Review := ⟨Review.parentItemId, fun r => r.reviewId.toInt⟩

/-- Entities by item; the items in the order in which they came. -/
structure Store (α : Type) where
  entries : List (ItemId × List α)
  deriving DecidableEq, Repr

namespace Store

variable {α : Type}

/-- The store without entities. -/
def empty : Store α := ⟨[]⟩

/-- The entities of an item. -/
def find (s : Store α) (item : ItemId) : List α :=
  ((s.entries.find? fun e => e.1 == item).map Prod.snd).getD []

/-- How many entities there are. -/
def len (s : Store α) : Nat := (s.entries.map fun e => e.2.length).foldr (· + ·) 0

/-- Whether there is no entity. -/
def isEmpty (s : Store α) : Bool := s.len == 0

/-- Puts an entity among others of its item: in the place of the one with its id, or at the end. -/
def place [Entity α] (a : α) : List α → List α
  | [] => [a]
  | b :: rest => if Entity.entityId b = Entity.entityId a then a :: rest else b :: place a rest

/-- Changes the list of an item, which is empty if the item is new. -/
def updateItem (item : ItemId) (f : List α → List α) :
    List (ItemId × List α) → List (ItemId × List α)
  | [] => [(item, f [])]
  | e :: rest => if e.1 = item then (item, f e.2) :: rest else e :: updateItem item f rest

/-- Puts an entity into the store, in the place of the one with its id. -/
def upsert [Entity α] (s : Store α) (a : α) : Store α :=
  ⟨updateItem (Entity.itemId a) (place a) s.entries⟩

/-- Removes the entities of an item, and says how many there were. -/
def deleteAll (s : Store α) (item : ItemId) : Store α × Nat :=
  (⟨s.entries.filter fun e => e.1 ≠ item⟩, (s.find item).length)

end Store

end Catalogue
