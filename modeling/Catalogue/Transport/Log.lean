import Catalogue.Text.Utf8

/-!
# The log of a partition

A partition is an append-only log of which only a tail is kept: a commit releases the records below
an offset. Offsets count from the first record ever appended, so they survive releases.

* `Record` -- what is kept of a published event;
* `PartitionLog` -- the offset of the first kept record, and the kept records;
* `PartitionLog.append`, `PartitionLog.readFrom`, `PartitionLog.commit` -- the operations.
-/

namespace Catalogue

/-- A published event in its place. -/
structure Record where
  topic : String
  partition : Nat
  /-- The place within the partition. -/
  offset : Nat
  /-- The place among all records ever accepted. -/
  sequence : Nat
  key : String
  payload : Bytes
  deriving DecidableEq, Repr

/-- The records of a partition that are not released. -/
structure PartitionLog where
  /-- The offset of the first of them. -/
  base : Nat
  records : List Record
  deriving DecidableEq, Repr

namespace PartitionLog

/-- The log without records. -/
def empty : PartitionLog := ⟨0, []⟩

/-- The offset of the next record. -/
def endOffset (l : PartitionLog) : Nat := l.base + l.records.length

/-- The log with one more record. -/
def append (l : PartitionLog) (r : Record) : PartitionLog := { l with records := l.records ++ [r] }

/-- The kept records from an offset on. -/
def readFrom (l : PartitionLog) (offset : Nat) : List Record := l.records.drop (offset - l.base)

/-- Where a commit at an offset moves the first kept record: an offset past the end counts as the
    end, and one before the first kept record does not count. -/
def committed (l : PartitionLog) (offset : Nat) : Nat := max l.base (min offset l.endOffset)

/-- Releases the records below an offset, and says how many. -/
def commit (l : PartitionLog) (offset : Nat) : PartitionLog × Nat :=
  (⟨l.committed offset, l.records.drop (l.committed offset - l.base)⟩,
    l.committed offset - l.base)

@[simp] theorem endOffset_append (l : PartitionLog) (r : Record) :
    (l.append r).endOffset = l.endOffset + 1 := by
  simp [append, endOffset]; omega

/-- A commit does not move the end. -/
theorem endOffset_commit (l : PartitionLog) (offset : Nat) :
    (l.commit offset).1.endOffset = l.endOffset := by
  simp only [commit, committed, endOffset, List.length_drop]
  omega

end PartitionLog

end Catalogue
