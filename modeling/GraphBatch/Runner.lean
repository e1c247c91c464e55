import GraphBatch.Event
import GraphBatch.Program
import GraphBatch.Width

/-!
# The transaction runner

A runner runs a body inside a transaction of its own, on any client, and commits the result if a
policy accepts it. A body that fails has its transaction rolled back; after a transient failure it
is run again in a fresh transaction, while the retry budget lasts. What remains of a failure is
returned or, under the strategy that carries on, reported as a rollback; infrastructure failures
are always returned.

The run keeps a record of its attempts, from which its log events are read off.
-/

namespace GraphBatch

/-- What the runner does with a body's failure once the transaction is rolled back. -/
inductive Strategy where
  | rethrow
  | carryOn
deriving Repr, DecidableEq

def Strategy.tolerates : Strategy → Failure → Bool
  | rethrow, _ => false
  | carryOn, e => !e.isInfrastructure

/-- One call of a body: its result and a record of what it did, with the states it leaves. -/
structure Call (θ ω κ σ ρ : Type) where
  result : Except Failure ρ
  record : κ
  state : σ
  transaction : θ
  store : ω

/-- Work done inside an open transaction. -/
abbrev Body (θ ω κ σ ρ : Type) := σ → θ → ω → Call θ ω κ σ ρ

/-- A callback as a body on any client. -/
def Callback.bodyOn {θ ω σ ρ : Type} [Client ω θ] (callback : Callback σ ρ) :
    Body θ ω Account σ ρ := fun state t store =>
  let o := (callback state).run t store
  { result := o.value.1
    record := o.account
    state := o.value.2
    transaction := o.transaction
    store := o.store }

/-- A callback as a body on the journaling store. -/
abbrev Callback.body {σ ρ : Type} (callback : Callback σ ρ) : Body Transaction Store Account σ ρ :=
  callback.bodyOn

/-- How an attempt's transaction ended. -/
inductive Ending (ρ : Type) where
  | committed (result : ρ)
  | commitFailed (result : ρ) (e : Failure)
  | declined (result : ρ)
  | rolledBack (e : Failure)
  /-- The transaction was to be rolled back and that failed. -/
  | rollbackFailed (e : Failure)

/-- An attempt: either its transaction did not begin, or the body was called in it. -/
inductive Attempt (κ ρ : Type) where
  | unbegun (e : Failure)
  | ended (record : κ) (ending : Ending ρ)

/-- A finished run: `some` result when it committed, `none` when it was rolled back. -/
structure Run (ω κ σ ρ : Type) where
  result : Except Failure (Option ρ)
  state : σ
  store : ω
  attempts : List (Attempt κ ρ)

/-- The largest number that the attempt counter can hold. -/
def lastAttempt : Nat := Width.bound 32 - 1

structure Runner where
  /-- How often a body may be run again after a transient failure. -/
  maxRetries : Nat := 0
deriving Repr, DecidableEq

namespace Runner

variable {θ ω κ σ ρ : Type} [Client ω θ]

/-- Whether a failure of the attempt with this number is followed by another attempt. -/
def retries (runner : Runner) (number : Nat) (e : Failure) : Bool :=
  e.isTransient && number ≤ runner.maxRetries

/-- Rolls a transaction back; `ending` is what that makes of the attempt when it succeeds. -/
def undo (ending : Ending ρ) (t : θ) (store : ω) : Ending ρ × ω :=
  match Client.rollback t store with
  | (.ok (), store) => (ending, store)
  | (.error e, store) => (.rollbackFailed e, store)

/-- Ends the transaction of a finished call. -/
def conclude (accepts : ρ → Bool) (call : Call θ ω κ σ ρ) : Ending ρ × ω :=
  match call.result with
  | .ok result =>
    if accepts result then
      match Client.commit call.transaction call.store with
      | (.ok (), store) => (.committed result, store)
      | (.error e, store) => (.commitFailed result e, store)
    else undo (.declined result) call.transaction call.store
  | .error e => undo (.rolledBack e) call.transaction call.store

/-- One attempt: begins a transaction, calls the body and ends the transaction. -/
def attempt (body : Body θ ω κ σ ρ) (accepts : ρ → Bool) (state : σ) (store : ω) :
    Attempt κ ρ × σ × ω :=
  match Client.begin store with
  | (.error e, store) => (.unbegun e, state, store)
  | (.ok t, store) =>
    let call := body state t store
    let (ending, store) := conclude accepts call
    (.ended call.record ending, call.state, store)

/-- What an attempt that no other follows makes of the run. -/
def settle (strategy : Strategy) : Attempt κ ρ → Except Failure (Option ρ)
  | .unbegun e => .error e
  | .ended _ (.committed result) => .ok (some result)
  | .ended _ (.commitFailed _ e) => .error e
  | .ended _ (.declined _) => .ok none
  | .ended _ (.rolledBack e) => if strategy.tolerates e then .ok none else .error e
  | .ended _ (.rollbackFailed e) => .error e

/-- The run from attempt `number` on, with `left` retries left. -/
def attempts (body : Body θ ω κ σ ρ) (accepts : ρ → Bool) (strategy : Strategy) (left number : Nat)
    (state : σ) (store : ω) : Run ω κ σ ρ :=
  let (last, state, store) := attempt body accepts state store
  match left, last with
  | left + 1, .ended record (.rolledBack e) =>
    if e.isTransient then
      if number < lastAttempt then
        let rest := attempts body accepts strategy left (number + 1) state store
        { rest with attempts := last :: rest.attempts }
      else ⟨.error .attemptOverflow, state, store, [.ended record (.rolledBack e)]⟩
    else ⟨settle strategy last, state, store, [last]⟩
  | _, _ => ⟨settle strategy last, state, store, [last]⟩

/-- Runs `body`, committing only results that `accepts` accepts. -/
def run (runner : Runner) (body : Body θ ω κ σ ρ) (accepts : ρ → Bool) (strategy : Strategy)
    (state : σ) (store : ω) : Run ω κ σ ρ :=
  attempts body accepts strategy runner.maxRetries 1 state store

/-! ## Log events -/

/-- The events of one attempt; `inner` gives those of the body from its record. -/
def attemptEvents (runner : Runner) (strategy : Strategy) (inner : κ → List Event) (number : Nat) :
    Attempt κ ρ → List Event
  | .unbegun _ => [starting]
  | .ended record ending => starting :: inner record ++ closing ending
where
  counter : String × Json := ("attempt", .int number)
  starting : Event := ⟨.trace, "Starting transaction", [counter]⟩
  closing : Ending ρ → List Event
    | .committed _ => [⟨.trace, "Committed transaction", [counter]⟩]
    | .commitFailed _ _ => []
    | .declined _ => [⟨.debug, "Result not accepted, rolled back transaction", [counter]⟩]
    | .rolledBack e =>
      if runner.retries number e then
        [⟨.warn, "Transient failure, retrying transaction", [counter, ("error", .string e.message)]⟩]
      else if strategy.tolerates e then
        [⟨.warn, "Rolled back transaction", [("error", .string e.message)]⟩]
      else []
    | .rollbackFailed _ => []

/-- The events of a run, its attempts numbered from 1. -/
def events (runner : Runner) (strategy : Strategy) (inner : κ → List Event)
    (attempts : List (Attempt κ ρ)) : List Event :=
  (attempts.zipIdx 1).flatMap fun (attempt, number) =>
    runner.attemptEvents strategy inner number attempt

end Runner

end GraphBatch
