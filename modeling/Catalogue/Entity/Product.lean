import Catalogue.Entity.Violation
import Catalogue.Json.Record

/-!
# Products

The core entity: a name and a weight under an item id. A product that was read from a service says
which instance served it; a product that is written does not.
-/

namespace Catalogue

/-- A product. -/
structure Product where
  itemId : ItemId
  name : String
  weight : Int32
  /-- The instance that served this product. -/
  serviceAddress : Option String
  deriving DecidableEq, Repr

namespace Product

/-- The product as an instance at `address` serves it. -/
def servedFrom (p : Product) (address : String) : Product :=
  { p with serviceAddress := some address }

end Product

namespace Json

/-- The members of a product. -/
def productFields := Fields.required "itemId" Codec.itemId <|
  .required "name" Codec.text <|
  .required "weight" Codec.int32 <|
  .optional "serviceAddress" .null Codec.text .nil

/-- A product. -/
def Codec.product : Codec Product :=
  Codec.record "Product" productFields
    (fun (itemId, name, weight, serviceAddress, ()) => ⟨itemId, name, weight, serviceAddress⟩)
    (fun p => (p.itemId, p.name, p.weight, p.serviceAddress, ()))

end Json

end Catalogue
