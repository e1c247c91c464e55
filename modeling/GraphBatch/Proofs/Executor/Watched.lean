import GraphBatch.Proofs.Client.Watched
import GraphBatch.Proofs.Executor.Advance

/-!
# Executions on watched clients

An execution on a watched client goes as on the client itself, and we see of it that it hands back every
transaction before the next one begins (`Executor.execute_watched`): the transactions of an execution are the
attempts that began, one for each.
-/

namespace GraphBatch

variable {θ ω σ τ : Type} [Client ω θ]

namespace Batch

theorem handOver_watched (work : UnitOfWork σ τ) (number : Nat) (item : τ) :
    (handOver work number item : Body (Nat × θ) (Watched ω) (Delivery τ) (Progress σ τ) Unit) =
      Body.watched (handOver work number item) := by
  funext p ⟨id, t⟩ w
  simp only [handOver, Body.watched, Call.watched, Program.run_watched]

theorem draw_watched (work : UnitOfWork σ τ) (number left : Nat) (failure? : Option Failure) :
    (draw work number left failure? :
        Body (Nat × θ) (Watched ω) (List (Delivery τ)) (Progress σ τ) Unit) =
      Body.watched (draw work number left failure?) := by
  induction left generalizing failure? with
  | zero => rfl
  | succ left ih =>
    funext p ⟨id, t⟩ w
    rw [Body.watched, draw, draw]
    rcases p.cursor.tryAdvance with ⟨- | item, cursor⟩
    · rfl
    · simp only [handOver_watched, ih, Body.watched, Call.watched]
      cases (handOver work number item { p with cursor } t w.store).record.storeFailure? <;> rfl

theorem body_watched (work : UnitOfWork σ τ) (number size : Nat) :
    (body work number size :
        Body (Nat × θ) (Watched ω) (List (Delivery τ)) (Progress σ τ) Unit) =
      Body.watched (body work number size) := by
  funext p t w
  rw [body, draw_watched]
  rfl

end Batch

namespace Executor

theorem batch_watched (ex : Executor σ τ) (state : σ) (w : Watched ω) :
    ex.batch state w =
      let run := ex.batch state w.store
      { run with store := w.after (run.attempts.countP Attempt.begins) run.store } := by
  rw [batch, Batch.body_watched]
  exact ex.runner.run_watched (Batch.body ex.work _ ex.batchSize) _ .carryOn (ex.start state) w

theorem round_watched (ex : Executor σ τ) (state : σ) (w : Watched ω) :
    ex.round state w =
      let r := ex.round state w.store
      { r with store := w.after (r.record.attempts.countP Attempt.begins) r.store } := by
  rw [round, batch_watched]
  rfl

theorem rounds_watched (fuel : Nat) (ex : Executor σ τ) (state : σ) (w : Watched ω) :
    rounds fuel ex state w =
      let e := rounds fuel ex state w.store
      { e with store := w.after (e.attempts.countP Attempt.begins) e.store } := by
  induction fuel generalizing ex state w with
  | zero => simp [rounds, Execution.attempts, Watched.after, Watched.inTurn]
  | succ fuel ih =>
    rw [rounds, rounds, round_watched]
    cases (ex.round state w.store).ending with
    | some ending => simp [Execution.attempts]
    | none => simp [ih, Execution.attempts, Watched.after_after, List.countP_append]

theorem execute_watched (ex : Executor σ τ) (state : σ) (store : ω) :
    let e := ex.execute state store
    ex.execute state (⟨store, []⟩ : Watched ω) =
      { e with store := ⟨e.store, Watched.inTurn 0 (e.attempts.countP Attempt.begins)⟩ } :=
  rounds_watched ex.fuel ex state ⟨store, []⟩

end Executor

end GraphBatch
