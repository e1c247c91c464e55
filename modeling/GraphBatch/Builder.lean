import GraphBatch.Config
import GraphBatch.Executor

/-!
# Building executors

The settings of an executor and its three kinds of input: a ready sequence, a number of steps
without items, and a sequence that only a transaction can produce.
-/

namespace GraphBatch

/-- An executor in the making. -/
structure Builder (σ τ : Type) where
  work : UnitOfWork σ τ
  config : ExecutorConfig := {}

namespace Builder

variable {θ ω σ τ ι : Type} [Client ω θ]

inductive Setting where
  | batchSize (size : Nat)
  | maxRetries (count : Nat)
  | configure (config : ExecutorConfig)
deriving Repr, DecidableEq

def set (b : Builder σ τ) : Setting → Builder σ τ
  | .batchSize size => { b with config := { b.config with batchSize := size } }
  | .maxRetries count => { b with config := { b.config with maxRetries := count } }
  | .configure config => { b with config }

/-- Applies settings in order; later ones win. -/
def withSettings (b : Builder σ τ) (settings : List Setting) : Builder σ τ :=
  settings.foldl set b

def runner (b : Builder σ τ) : Runner := { maxRetries := b.config.maxRetries }

/-- An executor over a ready sequence. -/
def input (b : Builder σ τ) (items : Sequence τ) : Except Failure (Executor σ τ) :=
  if b.config.batchSize = 0 then .error .emptyBatch
  else
    .ok
      { work := b.work
        runner := b.runner
        batchSize := b.config.batchSize
        cursor := items.cursor
        length := items.length }

/-- An executor that runs its unit of work a number of times. -/
def steps (b : Builder σ Unit) (count : Nat) : Except Failure (Executor σ Unit) :=
  b.input (Sequence.replicate count ())

/-- The preparatory run of an input callback, with the executor built from its result. -/
structure Preparation (σ τ ι : Type) (ω : Type := Store) where
  result : Except Failure (Executor σ τ)
  state : ι
  store : ω
  attempts : List (Attempt Account (Sequence τ)) := []

/-- An executor whose input is the result of `callback` in a transaction of its own. -/
def transactionalInput (b : Builder σ τ) (callback : Callback ι (Sequence τ)) (state : ι) (store : ω) :
    Preparation σ τ ι ω :=
  if b.config.batchSize = 0 then { result := .error .emptyBatch, state, store }
  else
    let run := b.runner.run callback.bodyOn (fun _ => true) .rethrow state store
    let result := match run.result with
      | .error e => .error e
      | .ok none => .error .inputRolledBack
      | .ok (some items) => b.input items
    { result, state := run.state, store := run.store, attempts := run.attempts }

/-- The events of a preparatory run. -/
def Preparation.events (b : Builder σ τ) (p : Preparation σ τ ι ω) : List Event :=
  b.runner.events .rethrow (fun _ => []) p.attempts ++
    match p.result with
    | .ok _ => [⟨.debug, "Materialized batch input in a preparatory transaction", []⟩]
    | .error _ => []

end Builder

end GraphBatch
