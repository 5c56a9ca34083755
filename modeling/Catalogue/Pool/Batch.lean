import Catalogue.Metrics
import Catalogue.Pool.Basic

/-!
# Batches of calls

A batch of calls is started at one moment, in order, on a pool without calls. Each call takes a time
of its own once it has a worker; calls that take no time end at once. Time passes only when no
running call can end, and then straight to the moment at which one can.

Of several calls that can end at one moment the next one in the order of the batch ends first, going
round: after a call has ended, the search begins with the call behind it, and begins anew with the
first call whenever time has passed.

* `Call` -- a call: its duration, its outcome and what it counts;
* `Batch` -- a batch on its way, `Batch.enter` -- the start of a call, `Batch.advance` -- one end;
* `Batch.run` -- the whole batch; `Return` -- how, when and into which pool each call came back.
-/

namespace Catalogue

/-- A call: how long it takes in milliseconds, how it ends, and what it counts when it runs. -/
structure Call (α : Type) where
  delay : Nat
  outcome : Except Failure α
  counters : List Counter

namespace Pool

/-- A call of a batch: its place in the batch, and the time it still takes. -/
structure Job where
  index : Nat
  left : Nat
  deriving DecidableEq, Repr

/-- How a call came back. -/
structure Return where
  /-- Its place in the batch. -/
  index : Nat
  /-- Whether it ran, or was turned away. -/
  ran : Bool
  /-- The time since the start of the batch. -/
  time : Nat
  /-- The workers that were idle when it came back. -/
  idle : Nat
  deriving DecidableEq, Repr

/-- A batch on its way. -/
structure Batch where
  pool : Pool Job
  /-- The time since the start. -/
  now : Nat
  /-- Where the search for the next end begins. -/
  cursor : Nat
  /-- The calls that came back, in order. -/
  returns : List Return
  deriving DecidableEq, Repr

namespace Batch

/-- The batch without calls. -/
def empty : Batch := ⟨.empty, 0, 0, []⟩

/-- A running call ends. -/
def finishJob (limits : Limits) (b : Batch) (job : Job) : Batch :=
  let pool := b.pool.finish job
  { b with
    pool
    cursor := job.index + 1
    returns := b.returns ++ [⟨job.index, true, b.now, pool.idle limits⟩] }

/-- A call is started. -/
def enter (limits : Limits) (b : Batch) (job : Job) : Batch :=
  match b.pool.arrive limits job with
  | (.rejected, pool) =>
    { b with pool, returns := b.returns ++ [⟨job.index, false, b.now, pool.idle limits⟩] }
  | (.queued, pool) => { b with pool }
  | (.started, pool) =>
    if job.left = 0 then finishJob limits { b with pool } job else { b with pool }

/-- Lets time pass until a running call can end. -/
def pass (b : Batch) : Batch :=
  match (b.pool.running.map Job.left).min? with
  | none => b
  | some 0 => b
  | some d =>
    { b with
      pool := { b.pool with running := b.pool.running.map fun j => { j with left := j.left - d } }
      now := b.now + d
      cursor := 0 }

/-- The job that comes first in the batch. -/
def earliest? : List Job → Option Job
  | [] => none
  | j :: rest =>
    match earliest? rest with
    | none => some j
    | some k => if j.index ≤ k.index then some j else some k

/-- The running call that ends next, once time has passed. -/
def next? (b : Batch) : Option Job :=
  let ready := b.pool.running.filter fun j => j.left = 0
  (earliest? (ready.filter fun j => b.cursor ≤ j.index)).or (earliest? ready)

/-- The next end of a running call. -/
def advance (limits : Limits) (b : Batch) : Batch :=
  let b := b.pass
  match b.next? with
  | none => b
  | some job => finishJob limits b job

/-- A number of ends. -/
def advances (limits : Limits) : Nat → Batch → Batch
  | 0, b => b
  | n + 1, b => advances limits n (b.advance limits)

/-- The calls with these durations, as jobs from a place in the batch on. -/
def jobs : Nat → List Nat → List Job
  | _, [] => []
  | i, d :: ds => ⟨i, d⟩ :: jobs (i + 1) ds

/-- A batch once all its calls are started. -/
def started (limits : Limits) (delays : List Nat) : Batch :=
  (jobs 0 delays).foldl (enter limits) empty

/-- A batch once all its calls are back: one end for each call that ran or waited at the start. -/
def run (limits : Limits) (delays : List Nat) : Batch :=
  let b := started limits delays
  b.advances limits b.pool.occupied

/-- How a call of the batch came back. -/
def returnOf (b : Batch) (index : Nat) : Option Return := b.returns.find? fun r => r.index = index

end Batch

/-- A call of a batch that came back: its result, what it counted, whether it ran, the time, and the
    idle workers. -/
structure Result (α : Type) where
  result : Except Failure α
  counters : List Counter
  ran : Bool
  time : Nat
  idle : Nat

/-- The result of the call at a place of the batch; one that did not come back was turned away. -/
def Batch.resultOf {α : Type} (b : Batch) (index : Nat) (call : Call α) : Result α :=
  match b.returnOf index with
  | some ⟨_, true, time, idle⟩ => ⟨call.outcome, call.counters, true, time, idle⟩
  | some ⟨_, false, time, idle⟩ => ⟨.error full, [.poolRejections], false, time, idle⟩
  | none => ⟨.error full, [.poolRejections], false, 0, 0⟩

/-- The results of a batch, in its order. -/
def runAll {α : Type} (limits : Limits) (calls : List (Call α)) : List (Result α) :=
  let b := Batch.run limits (calls.map Call.delay)
  calls.zipIdx.map fun (call, i) => b.resultOf i call

end Pool

end Catalogue
