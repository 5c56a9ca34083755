import Catalogue.Entity.Violation

/-!
# Failed reads and writes

A read or a write fails in one of three ways, and always with a message for the caller. Where a
failure comes from another service the message is that service's own.
-/

namespace Catalogue

/-- How a read or a write failed. -/
inductive FailureKind where
  /-- There is no such entity. -/
  | notFound
  /-- The caller sent something that was refused. -/
  | invalidInput
  /-- Anything else. -/
  | unexpected
  deriving DecidableEq, Repr

/-- The label of a kind in metrics. -/
def FailureKind.label : FailureKind → String
  | .notFound => "not_found"
  | .invalidInput => "invalid_input"
  | .unexpected => "unexpected"

/-- A failed read or write. -/
structure Failure where
  kind : FailureKind
  message : String
  deriving DecidableEq, Repr

/-- A broken rule is the caller's fault. -/
def Failure.ofViolation (v : Violation) : Failure := ⟨.invalidInput, v.message⟩

end Catalogue
