import GraphBatch.Builder
import GraphBatch.Proofs.Executor.Advance

/-!
# Tasks

A run of the runner, the preparation of an input and an execution are the tasks that open transactions on
a client. Whatever becomes of it, a task has at most one transaction open, and none before it and after
it: `Client.Brackets` says which states of a client are passed through outside of transactions and inside
of them, and `Brackets.task` that a task leads from states of the first kind to states of the first kind.
-/

namespace GraphBatch

/-- What is done with a client as a whole. -/
inductive Task : Type 1 where
  | run {σ ρ : Type} (runner : Runner) (callback : Callback σ ρ) (accepts : ρ → Bool)
      (strategy : Strategy) (state : σ)
  | prepare {σ τ ι : Type} (builder : Builder σ τ) (callback : Callback ι (Sequence τ)) (state : ι)
  | execute {σ τ : Type} (executor : Executor σ τ) (state : σ)

/-- The client as the task leaves it. -/
def Task.on {ω θ : Type} [Client ω θ] : Task → ω → ω
  | run runner callback accepts strategy state, store =>
    (runner.run callback.bodyOn accepts strategy state store).store
  | prepare builder callback state, store => (builder.transactionalInput callback state store).store
  | execute executor state, store => (executor.execute state store).store

/-- The operations of a client lead from `idle` states to `busy` ones, in which a transaction is open, and
from these back. -/
structure Client.Brackets {ω θ : Type} [Client ω θ] (idle : ω → Prop) (busy : θ → ω → Prop) : Prop where
  begin_ok {t : θ} {s s' : ω} : idle s → Client.begin s = (.ok t, s') → busy t s'
  begin_error {e : Failure} {s s' : ω} : idle s → Client.begin s = (.error e, s') → idle s'
  inside {t t' : θ} {s s' : ω} {st : Statement} {reply : Except Failure (List Row)} :
    busy t s → Client.inside t s st = (reply, t', s') → busy t' s'
  outside {t : θ} {s s' : ω} {st : Statement} {reply : Except Failure (List Row)} :
    busy t s → Client.outside s st = (reply, s') → busy t s'
  set {t : θ} {s : ω} (sw : Store.Switch) : busy t s → busy t (Client.set s sw)
  commit {t : θ} {s s' : ω} {reply : Except Failure Unit} :
    busy t s → Client.commit t s = (reply, s') → idle s'
  rollback {t : θ} {s s' : ω} {reply : Except Failure Unit} :
    busy t s → Client.rollback t s = (reply, s') → idle s'

namespace Client.Brackets

variable {ω θ α κ σ ρ τ ι : Type} [Client ω θ] {idle : ω → Prop} {busy : θ → ω → Prop}
  (b : Client.Brackets idle busy)
include b

/-- A program stays inside of its transaction. -/
theorem program (p : Program α) {t : θ} {s : ω} (inside : busy t s) :
    busy (p.run t s).transaction (p.run t s).store := by
  induction p generalizing t s with
  | done value => exact inside
  | inside st next ih =>
    unfold Program.run
    split
    · rename_i replied
      exact ih _ (b.inside inside replied)
    · rename_i replied
      exact ih _ (b.inside inside replied)
  | outside st next ih =>
    unfold Program.run
    split
    · rename_i replied
      exact ih _ (b.outside inside replied)
    · rename_i replied
      exact ih _ (b.outside inside replied)
  | switch sw next ih => exact ih (b.set sw inside)

/-- However a call went, its transaction is closed. -/
theorem conclude {accepts : ρ → Bool} {call : Call θ ω κ σ ρ} {ending : Ending ρ} {s' : ω}
    (inside : busy call.transaction call.store) (h : Runner.conclude accepts call = (ending, s')) :
    idle s' := by
  have cases := Runner.conclude_cases h
  cases ending with
  | committed result => exact b.commit inside cases.2.2
  | commitFailed result e => exact b.commit inside cases.2.2
  | declined result => exact b.rollback inside cases.2.2
  | rolledBack e => exact b.rollback inside cases.2
  | rollbackFailed e => exact b.rollback inside cases

/-- An attempt closes the transaction that it opens. -/
theorem attempt {body : Body θ ω κ σ ρ} {accepts : ρ → Bool}
    (stays : ∀ (state : σ) (t : θ) (s : ω), busy t s →
      busy (body state t s).transaction (body state t s).store)
    {state state' : σ} {s s' : ω} {a : Attempt κ ρ} (outside : idle s)
    (h : Runner.attempt body accepts state s = (a, state', s')) : idle s' := by
  cases a with
  | unbegun e => exact b.begin_error outside (Runner.attempt_unbegun h).2
  | ended record ending =>
    obtain ⟨t, begun, began, -, -, concluded⟩ := Runner.attempt_ended h
    exact b.conclude (stays state t begun (b.begin_ok outside began)) concluded

/-- So do attempts one after the other. -/
theorem attempts {body : Body θ ω κ σ ρ} {accepts : ρ → Bool}
    (stays : ∀ (state : σ) (t : θ) (s : ω), busy t s →
      busy (body state t s).transaction (body state t s).store)
    (strategy : Strategy) (left number : Nat) (state : σ) {s : ω} (outside : idle s) :
    idle (Runner.attempts body accepts strategy left number state s).store := by
  have tries := Runner.tries_attempts body accepts strategy left number state s
  refine (tries.kept (P := fun _ => True) (fun outside step => ⟨?_, trivial⟩) outside).1
  exact b.attempt stays outside step

theorem batch (work : UnitOfWork σ τ) (number size : Nat) (p : Progress σ τ) (t : θ) (s : ω)
    (inside : busy t s) :
    busy (Batch.body work number size p t s).transaction (Batch.body work number size p t s).store :=
  (Batch.kept_body (P := fun _ => True)
    (fun invocation state _ _ inside => ⟨b.program (work invocation state) inside, trivial⟩) inside).1

theorem rounds (fuel : Nat) (ex : Executor σ τ) (state : σ) {s : ω} (outside : idle s) :
    idle (Executor.rounds fuel ex state s).store := by
  refine (Executor.kept_rounds (P := fun _ => True) (fun outside step => ⟨?_, trivial⟩) outside).1
  exact b.attempt (b.batch ex.work _ ex.batchSize) outside step

theorem run (runner : Runner) (callback : Callback σ ρ) (accepts : ρ → Bool) (strategy : Strategy)
    (state : σ) {s : ω} (outside : idle s) :
    idle (runner.run callback.bodyOn accepts strategy state s).store :=
  b.attempts (fun state _ _ inside => b.program (callback state) inside) strategy _ _ state outside

theorem prepare (builder : Builder σ τ) (callback : Callback ι (Sequence τ)) (state : ι) {s : ω}
    (outside : idle s) : idle (builder.transactionalInput callback state s).store := by
  unfold Builder.transactionalInput
  split
  · exact outside
  · exact b.run builder.runner callback _ _ state outside

/-- A task closes all that it opens. -/
theorem task (task : Task) {s : ω} (outside : idle s) : idle (task.on s) := by
  cases task with
  | run runner callback accepts strategy state =>
    exact b.run runner callback accepts strategy state outside
  | prepare builder callback state => exact b.prepare builder callback state outside
  | execute ex state => exact b.rounds ex.fuel ex state outside

end Client.Brackets

end GraphBatch
