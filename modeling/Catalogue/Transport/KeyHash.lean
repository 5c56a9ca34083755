import Catalogue.Text.Utf8

/-!
# The hash of a key

Records with one key share a partition. The partition is the SipHash-1-3 of the key, under a key of
zeros, modulo the number of partitions. What is hashed are the key's bytes and a final byte 0xFF,
in little-endian words of eight; the last word holds the rest of the bytes and, on top, the length.

* `SipState` -- the four words of the hash; `SipState.round`, `SipState.absorb` -- its steps;
* `sipHash` -- the hash of a byte string;
* `partitionOf` -- the partition of a key (`partitionOf_lt`: it exists).
-/

namespace Catalogue

/-- The four words of the hash. -/
structure SipState where
  a : UInt64
  b : UInt64
  c : UInt64
  d : UInt64
  deriving DecidableEq

namespace SipState

/-- The words under a key of zeros. -/
def initial : SipState :=
  ⟨0x736f6d6570736575, 0x646f72616e646f6d, 0x6c7967656e657261, 0x7465646279746573⟩

/-- A word turned left. -/
def turn (x : UInt64) (n : UInt64) : UInt64 := (x <<< n) ||| (x >>> (64 - n))

/-- One round. -/
def round (s : SipState) : SipState :=
  let a := s.a + s.b
  let b := turn s.b 13 ^^^ a
  let a := turn a 32
  let c := s.c + s.d
  let d := turn s.d 16 ^^^ c
  let a := a + d
  let d := turn d 21 ^^^ a
  let c := c + b
  let b := turn b 17 ^^^ c
  let c := turn c 32
  ⟨a, b, c, d⟩

/-- Takes in a word. -/
def absorb (s : SipState) (m : UInt64) : SipState :=
  let s := round { s with d := s.d ^^^ m }
  { s with a := s.a ^^^ m }

/-- The hash once all words are taken in. -/
def finish (s : SipState) : UInt64 :=
  let s := round (round (round { s with c := s.c ^^^ 0xff }))
  s.a ^^^ s.b ^^^ s.c ^^^ s.d

end SipState

/-- The number whose little-endian bytes these are. -/
def littleEndian : Bytes → Nat
  | [] => 0
  | b :: t => b.toNat + 256 * littleEndian t

/-- Takes in the bytes of a text of `length` bytes, eight at a time. -/
def absorbAll (length : Nat) : SipState → Bytes → SipState
  | s, a :: b :: c :: d :: e :: f :: g :: h :: t =>
    absorbAll length (s.absorb (littleEndian [a, b, c, d, e, f, g, h]).toUInt64) t
  | s, t => s.absorb (littleEndian t + length % 256 * 72057594037927936).toUInt64

/-- The SipHash-1-3 of a byte string under a key of zeros. -/
def sipHash (t : Bytes) : UInt64 := (absorbAll t.length .initial t).finish

/-- The partition of a key among `partitions`. -/
def partitionOf (partitions : Nat) (key : String) : Nat :=
  (sipHash (bytesOf key ++ [0xFF])).toNat % partitions

theorem partitionOf_lt {partitions : Nat} (h : 0 < partitions) (key : String) :
    partitionOf partitions key < partitions := Nat.mod_lt _ h

end Catalogue
