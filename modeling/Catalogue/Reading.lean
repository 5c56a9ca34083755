import Catalogue.Entity.Aggregate
import Catalogue.Pool.Batch

/-!
# Reads

A read of an item calls the services of the three domains and puts their answers together. The
product is needed: if its call fails, the read fails in the same way. The two lists are not: where
the call for a list fails, the read goes on with the empty list and is counted as degraded.

* `ItemCalls` -- the calls of a read;
* `Reading.resolve` -- the result for the three outcomes, `Reading.counters` -- what is counted;
* `Reading.read` -- a read on its own, `Reading.readAll` -- reads that are started together and
  share the pool.
-/

namespace Catalogue

/-- The calls of a read, in the order in which they are started. -/
structure ItemCalls where
  product : Call Product
  recommendations : Call (List Recommendation)
  reviews : Call (List Review)

namespace ItemCalls

/-- How long the calls take. -/
def delays (c : ItemCalls) : List Nat :=
  [c.product.delay, c.recommendations.delay, c.reviews.delay]

end ItemCalls

namespace Reading

/-- A list that may be missing. -/
def orEmpty {α : Type} : Except Failure (List α) → List α
  | .ok items => items
  | .error _ => []

/-- The result of a read for the outcomes of its calls. -/
def resolve (address : String) (product : Except Failure Product)
    (recommendations : Except Failure (List Recommendation))
    (reviews : Except Failure (List Review)) : Except Failure Aggregate :=
  match product with
  | .error f => .error f
  | .ok p => .ok (Aggregate.assemble address p (orEmpty recommendations) (orEmpty reviews))

/-- What is counted for a list that may be missing. -/
def degraded {α : Type} (domain : Domain) : Except Failure (List α) → List Counter
  | .ok _ => []
  | .error _ => [.degradedReads domain]

/-- What a read counts for the outcomes of its calls. -/
def counters (product : Except Failure Product)
    (recommendations : Except Failure (List Recommendation))
    (reviews : Except Failure (List Review)) : List Counter :=
  .reads :: match product with
    | .error _ => []
    | .ok _ => degraded .recommendation recommendations ++ degraded .review reviews ++
        [.readDurations]

/-- A read that is done. -/
structure Result where
  result : Except Failure Aggregate
  /-- The time since the start. -/
  time : Nat
  counters : List Counter
  /-- Whether the call for the product ran. -/
  productRan : Bool

/-- The read whose calls stand at a place of a batch: it is done with the last of them. -/
def ofBatch (address : String) (b : Pool.Batch) (index : Nat) (calls : ItemCalls) : Result :=
  let p := b.resultOf (3 * index) calls.product
  let r := b.resultOf (3 * index + 1) calls.recommendations
  let v := b.resultOf (3 * index + 2) calls.reviews
  { result := resolve address p.result r.result v.result
    time := max p.time (max r.time v.time)
    counters := p.counters ++ r.counters ++ v.counters ++ counters p.result r.result v.result
    productRan := p.ran }

/-- A read on its own. -/
def read (limits : Pool.Limits) (address : String) (calls : ItemCalls) : Result :=
  ofBatch address (Pool.Batch.run limits calls.delays) 0 calls

/-- Reads that are started together, in order. -/
def readAll (limits : Pool.Limits) (address : String) (reads : List ItemCalls) : List Result :=
  let b := Pool.Batch.run limits (reads.flatMap ItemCalls.delays)
  reads.zipIdx.map fun (calls, i) => ofBatch address b i calls

end Reading

end Catalogue
