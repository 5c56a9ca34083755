import Catalogue.Failure

/-!
# The pool

All calls to the services share one pool. A number of workers run calls, and a number of further
calls may wait for a worker; a call that finds all places taken is turned away at once and never
runs. Workers go to the waiting calls first come, first served: a worker whose call ends is handed
to the call that has waited longest, before any new call can get it.

What becomes of a call is decided by two counts, of the permits to be there and of the permits to
run that are out. The pool does not look at the calls for that.

* `Pool.Limits` -- how many permits there are of either kind;
* `Pool` -- the permits that are out, the calls that run and those that wait;
* `Pool.arrive`, `Pool.finish` -- the only changes;
* `Pool.idle` -- the permits to run that are left.
-/

namespace Catalogue

namespace Pool

/-- The highest number of places a pool can have: one less than the 61st power of two. -/
def maxPlaces : Nat := 2305843009213693951

/-- The limits of a pool. -/
structure Limits where
  /-- How many calls run at once. -/
  workers : Nat
  /-- How many calls run or wait. -/
  places : Nat
  workers_pos : 1 ≤ workers
  workers_le : workers ≤ places

/-- The limits for a size and a queue: at least one worker, and no more places than a pool has. -/
def Limits.of (size queue : Nat) : Limits where
  workers := max 1 (min size maxPlaces)
  places := min (max 1 (min size maxPlaces) + queue) maxPlaces
  workers_pos := by omega
  workers_le := by
    have h : 1 ≤ maxPlaces := by decide
    omega

end Pool

/-- A pool: what it counts, and the calls in it. -/
structure Pool (κ : Type) where
  /-- The permits to run that are out. -/
  acquired : Nat
  /-- The permits to be in the pool that are out. -/
  admitted : Nat
  /-- The calls that have a worker. -/
  running : List κ
  /-- The calls that wait for one; the first has waited longest. -/
  waiting : List κ
  deriving DecidableEq, Repr

namespace Pool

variable {κ : Type}

/-- The pool without calls. -/
def empty : Pool κ := ⟨0, 0, [], []⟩

/-- How many calls run or wait. -/
def occupied (p : Pool κ) : Nat := p.running.length + p.waiting.length

/-- The permits to run that are left. -/
def idle (limits : Limits) (p : Pool κ) : Nat := limits.workers - p.acquired

/-- What becomes of a call that arrives. -/
inductive Admission where
  /-- It has a worker. -/
  | started
  /-- It waits for one. -/
  | queued
  /-- All places are taken. -/
  | rejected
  deriving DecidableEq, Repr

/-- A call gets both permits, and runs. -/
def start (p : Pool κ) (call : κ) : Pool κ :=
  ⟨p.acquired + 1, p.admitted + 1, p.running ++ [call], p.waiting⟩

/-- A call gets the permit to be in the pool, and waits for the permit to run. -/
def queue (p : Pool κ) (call : κ) : Pool κ :=
  ⟨p.acquired, p.admitted + 1, p.running, p.waiting ++ [call]⟩

/-- A call arrives. -/
def arrive (limits : Limits) (p : Pool κ) (call : κ) : Admission × Pool κ :=
  if limits.places ≤ p.admitted then (.rejected, p)
  else if p.acquired < limits.workers then (.started, p.start call)
  else (.queued, p.queue call)

/-- A running call ends and gives both of its permits back. The call that has waited longest gets the
    permit to run; it is back in the pool only if no call waits. -/
def finish [BEq κ] (p : Pool κ) (call : κ) : Pool κ :=
  let running := p.running.erase call
  match p.waiting with
  | [] => ⟨p.acquired - 1, p.admitted - 1, running, []⟩
  | next :: rest => ⟨p.acquired, p.admitted - 1, running ++ [next], rest⟩

/-- The failure of a call that was turned away. -/
def full : Failure := ⟨.unexpected, "upstream worker queue is full"⟩

end Pool

end Catalogue
