import Catalogue.Json.Codec

/-!
# Item ids

A product, and everything that hangs off it, is known by its item id, a positive number of 63 bits.
The id is also the key of every change event about the item: its decimal text decides the partition.

* `ItemId` -- the ids, with the range in the type;
* `ItemId.ofInt` -- the check of a raw number (`ofInt_ok_iff`, `ofInt_error_iff`: what it accepts
  and what it refuses);
* `ItemId.partitionKey` -- the key of the item's events;
* `Codec.itemId` -- an integer of 64 bits, then the check.
-/

namespace Catalogue

/-- The id of a product: at least one, and below the 63rd power of two. -/
@[ext]
structure ItemId where
  val : Nat
  pos : 1 ≤ val
  lt : val < 9223372036854775808
  deriving DecidableEq

instance : Repr ItemId := ⟨fun k n => reprPrec k.val n⟩

namespace ItemId

/-- The wording for a number that is no item id. -/
def invalidText (n : Int) : String := "Invalid itemId: " ++ integerText n

/-- The id with this number; the number itself if it is none. -/
def ofInt (n : Int) : Except Int ItemId :=
  if h : 1 ≤ n ∧ n < 9223372036854775808 then .ok ⟨n.toNat, by omega, by omega⟩ else .error n

/-- The key of the item's change events. -/
def partitionKey (k : ItemId) : String := decimalText k.val

theorem ofInt_val (k : ItemId) : ofInt k.val = .ok k := by
  have h := k.pos
  have h' := k.lt
  unfold ofInt
  rw [dif_pos ⟨by omega, by omega⟩]
  rfl

theorem ofInt_ok_iff (i : Int) (k : ItemId) : ofInt i = .ok k ↔ i = k.val := by
  constructor
  · intro h
    unfold ofInt at h
    split at h
    · cases h
      show i = (i.toNat : Int)
      omega
    · cases h
  · rintro rfl
    exact k.ofInt_val

theorem ofInt_error_iff (i n : Int) :
    ofInt i = .error n ↔ n = i ∧ ¬ (1 ≤ i ∧ i < 9223372036854775808) := by
  unfold ofInt
  by_cases h : 1 ≤ i ∧ i < 9223372036854775808
  · rw [dif_pos h]
    exact ⟨nofun, fun hn => absurd h hn.2⟩
  · rw [dif_neg h, Except.error.injEq]
    exact ⟨fun hn => ⟨hn.symm, h⟩, fun hn => hn.1.symm⟩

end ItemId

namespace Json

/-- An item id. -/
def Codec.itemId : Codec ItemId :=
  Codec.int64.checked
    (fun i => match ItemId.ofInt i.toInt with
      | .ok k => .ok k
      | .error n => .error (ItemId.invalidText n))
    (fun k => Int64.ofNat k.val)

end Json

end Catalogue
