import GraphBatch.Batch

/-!
# The batch executor

An executor runs a unit of work for every item of its input, one transaction for each batch of
items. A failed batch is rolled back alone and the execution goes on with the next one; only an
infrastructure failure ends it early. The counters survive an execution, so that another one goes
on with the items left.
-/

namespace GraphBatch

variable {θ ω σ τ : Type} [Client ω θ]

structure Executor (σ τ : Type) where
  work : UnitOfWork σ τ
  runner : Runner
  batchSize : Nat
  cursor : Cursor τ
  /-- The number of calls after which the cursor's source has no items left. -/
  length : Nat
  stats : Stats := {}

/-- What came of a batch. -/
inductive Conclusion where
  /-- No item was drawn. -/
  | empty
  | committed (attempted drawn : Nat)
  | rolledBack (drawn : Nat)
  /-- The execution ended with a failure after items were drawn. -/
  | broken (drawn : Nat)
deriving Repr, DecidableEq

namespace Conclusion

def of (p : Progress σ τ) (result : Except Failure (Option Unit)) : Conclusion :=
  if p.drawn = 0 then empty
  else
    match result with
    | .error _ => broken p.drawn
    | .ok (some ()) => committed p.attempted p.drawn
    | .ok none => rolledBack p.drawn

/-- Enters a batch in the counters, where its number has been taken already: an empty batch gives
it back. -/
def enter (stats : Stats) : Conclusion → Stats
  | empty => { stats with batches := stats.batches - 1 }
  | committed attempted drawn =>
    { stats with
      successfulSteps := stats.successfulSteps + attempted
      failedBatches := if attempted < drawn then stats.failedBatches + 1 else stats.failedBatches }
  | rolledBack _ => { stats with failedBatches := stats.failedBatches + 1 }
  | broken _ => stats

end Conclusion

/-- A batch as it went. -/
structure BatchRecord (τ : Type) where
  number : Nat
  attempts : List (Attempt (List (Delivery τ)) Unit)
  conclusion : Conclusion

/-- A finished execution. -/
structure Execution (σ τ : Type) (ω : Type := Store) where
  result : Except Failure Stats
  executor : Executor σ τ
  state : σ
  store : ω
  batches : List (BatchRecord τ)

namespace Executor

/-- A batch with what follows it: `none` when the next batch does, else the end of the execution. -/
structure Round (σ τ : Type) (ω : Type := Store) where
  ending : Option (Except Failure Unit)
  executor : Executor σ τ
  state : σ
  store : ω
  record : BatchRecord τ

/-- Whether a batch ends the execution, and with what. One of which the last attempt drew nothing has
found the end of the input. -/
def ending (p : Progress σ τ) (result : Except Failure (Option Unit)) : Option (Except Failure Unit) :=
  if p.drawn = 0 then some (result.map fun _ => ())
  else
    match result with
    | .error e => some (.error e)
    | .ok _ => if p.attempted = 0 then some (.ok ()) else none

/-- Where the next batch starts: its number is taken before anything else. -/
def start (ex : Executor σ τ) (state : σ) : Progress σ τ :=
  { cursor := ex.cursor, stats := { ex.stats with batches := ex.stats.batches + 1 }, state }

/-- The attempts at the next batch. -/
def batch (ex : Executor σ τ) (state : σ) (store : ω) : Run ω (List (Delivery τ)) (Progress σ τ) Unit :=
  ex.runner.run (Batch.body ex.work (ex.stats.batches + 1) ex.batchSize) (fun _ => true) .carryOn
    (ex.start state) store

/-- Runs the next batch. -/
def round (ex : Executor σ τ) (state : σ) (store : ω) : Round σ τ ω :=
  let run := ex.batch state store
  let conclusion := Conclusion.of run.state run.result
  { ending := ending run.state run.result
    executor := { ex with cursor := run.state.cursor, stats := conclusion.enter run.state.stats }
    state := run.state.state
    store := run.store
    record := ⟨ex.stats.batches + 1, run.attempts, conclusion⟩ }

/-- Runs batches until one ends the execution, `fuel` of them at most. -/
def rounds : Nat → Executor σ τ → σ → ω → Execution σ τ ω
  | 0, ex, state, store => ⟨.ok ex.stats, ex, state, store, []⟩
  | fuel + 1, ex, state, store =>
    let r := ex.round state store
    match r.ending with
    | some ending =>
      ⟨ending.map fun _ => r.executor.stats, r.executor, r.state, r.store, [r.record]⟩
    | none =>
      let rest := rounds fuel r.executor r.state r.store
      { rest with batches := r.record :: rest.batches }

/-- A bound on the batches of an execution: each but the last draws an item, and an item costs the
cursor a call. -/
def fuel (ex : Executor σ τ) : Nat :=
  ex.length + 2 - ex.cursor.asked

/-- Drains the input, one transaction for each batch. -/
def execute (ex : Executor σ τ) (state : σ) (store : ω) : Execution σ τ ω :=
  rounds ex.fuel ex state store

end Executor

/-! ## Log events -/

def BatchRecord.events (runner : Runner) (b : BatchRecord τ) : List Event :=
  ⟨.trace, "Starting transaction for batch", [number]⟩ ::
    runner.events .carryOn Batch.events b.attempts ++ conclusion b.conclusion
where
  number : String × Json := ("batch_number", .int b.number)
  conclusion : Conclusion → List Event
    | .empty => []
    | .committed attempted drawn =>
      ⟨.trace, "Committed transaction for batch", [number, ("attempted", .int attempted)]⟩ ::
        if attempted < drawn then
          [⟨.warn, "Steps of a retried attempt were rolled back",
            [number, ("lost", .int (drawn - attempted : Nat))]⟩]
        else []
    | .rolledBack drawn =>
      [⟨.warn, "Rolled back transaction for batch", [number, ("drawn", .int drawn)]⟩]
    | .broken _ => []

/-- The events that close an execution that drained its input. -/
def Stats.events (s : Stats) : List Event :=
  ⟨.debug, s!"Executed {s.successfulSteps} of {s.totalSteps} steps in {s.batches} batches",
    [("successful_steps", .int s.successfulSteps), ("total_steps", .int s.totalSteps),
      ("batches", .int s.batches)]⟩ ::
    if s.isComplete then []
    else
      [⟨.warn, s!"Failed to execute {s.failedSteps} steps",
        [("failed_steps", .int s.failedSteps), ("failed_batches", .int s.failedBatches)]⟩]

def Execution.events (e : Execution σ τ ω) : List Event :=
  e.batches.flatMap (BatchRecord.events e.executor.runner) ++
    match e.result with
    | .ok stats => stats.events
    | .error _ => []

end GraphBatch
