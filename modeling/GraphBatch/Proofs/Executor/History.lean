import GraphBatch.Builder
import GraphBatch.Proofs.Executor.Advance

/-!
# Histories of an executor

An executor is built over an input and then executed any number of times. Between two executions the
state of the unit of work and the store may become anything, so a history is a list of those that
each execution is entered with; the cursor and the counters are the executor's own and carry over.
-/

namespace GraphBatch

variable {θ ω σ τ : Type} [Client ω θ]

namespace Execution

/-- The items handed over in the execution. -/
def deliveries (e : Execution σ τ ω) : List (Delivery τ) :=
  e.batches.flatMap BatchRecord.deliveries

theorem deliveries_eq (e : Execution σ τ ω) : e.deliveries = e.attempts.flatMap Attempt.deliveries := by
  rw [attempts, List.flatMap_assoc]
  rfl

theorem result_eq_ok {e : Execution σ τ ω} {stats : Stats} (h : e.result.toOption = some stats) :
    e.result = .ok stats := by
  cases result : e.result with
  | error e => simp [result, Except.toOption] at h
  | ok stats' => simpa [result, Except.toOption] using h

end Execution

namespace Executor

/-- The executions of one executor, each entered with a state and a store of its own. -/
def executions (ex : Executor σ τ) : List (σ × ω) → List (Execution σ τ ω)
  | [] => []
  | (state, store) :: rest =>
    let e := ex.execute state store
    e :: e.executor.executions rest

/-- The executor after its executions. -/
def after (ex : Executor σ τ) : List (σ × ω) → Executor σ τ
  | [] => ex
  | (state, store) :: rest => (ex.execute state store).executor.after rest

/-- Executors over a client that have been built and then executed any number of times. -/
inductive Reachable (ω : Type) {θ : Type} [Client ω θ] : Executor σ τ → Prop
  | built {b : Builder σ τ} {items : Sequence τ} {ex : Executor σ τ} :
      b.input items = .ok ex → Reachable ω ex
  | executed {ex : Executor σ τ} (state : σ) (store : ω) :
      Reachable ω ex → Reachable ω (ex.execute state store).executor

/-- The batches of a history advance the executor. -/
theorem advances_executions (ex : Executor σ τ) (entries : List (σ × ω)) :
    ex.Advances ((ex.executions entries).flatMap (·.batches)) (ex.after entries) := by
  induction entries generalizing ex with
  | nil => exact .nil ex
  | cons entry rest ih =>
    obtain ⟨state, store⟩ := entry
    exact (ex.advances_execute state store).append (ih _)

theorem executions_append (ex : Executor σ τ) (entries later : List (σ × ω)) :
    ex.executions (entries ++ later) =
      ex.executions entries ++ (ex.after entries).executions later := by
  induction entries generalizing ex with
  | nil => rfl
  | cons entry rest ih => exact congrArg _ (ih _)

theorem after_append (ex : Executor σ τ) (entries later : List (σ × ω)) :
    ex.after (entries ++ later) = (ex.after entries).after later := by
  induction entries generalizing ex with
  | nil => rfl
  | cons entry rest ih => exact ih _

/-- An execution in a history is one of the executor that the history before it leaves. -/
theorem executions_split {ex : Executor σ τ} {entries : List (σ × ω)}
    {earlier later : List (Execution σ τ ω)} {call : Execution σ τ ω}
    (h : ex.executions entries = earlier ++ call :: later) :
    ∃ before state store, ex.executions before = earlier ∧
      call = (ex.after before).execute state store := by
  induction earlier generalizing ex entries with
  | nil =>
    cases entries with
    | nil => cases h
    | cons entry rest => exact ⟨[], entry.1, entry.2, rfl, (List.cons.inj h).1.symm⟩
  | cons first earlier ih =>
    cases entries with
    | nil => cases h
    | cons entry rest =>
      obtain ⟨rfl, tail⟩ := List.cons.inj h
      obtain ⟨before, state, store, rfl, rfl⟩ := ih tail
      exact ⟨entry :: before, state, store, rfl, rfl⟩

/-- A built executor is sound, has the whole input left and has counted nothing. -/
theorem sound_of_input {b : Builder σ τ} {items : Sequence τ} {ex : Executor σ τ}
    (built : b.input items = .ok ex) : ex.Sound ∧ ex.left = items.toList ∧ ex.stats = {} := by
  unfold Builder.input at built
  split at built
  · cases built
  · rename_i size
    cases built
    exact ⟨⟨Nat.pos_of_ne_zero size, items.within_cursor⟩, rfl, rfl⟩

theorem work_of_input {b : Builder σ τ} {items : Sequence τ} {ex : Executor σ τ}
    (built : b.input items = .ok ex) : ex.work = b.work := by
  unfold Builder.input at built
  split at built
  · cases built
  · cases built
    rfl

theorem Sound.after {ex : Executor σ τ} (sound : ex.Sound) (entries : List (σ × ω)) :
    (ex.after entries).Sound :=
  (ex.advances_executions entries).sound sound

theorem Reachable.sound {ex : Executor σ τ} (h : ex.Reachable ω) : ex.Sound := by
  induction h with
  | built built => exact (sound_of_input built).1
  | executed state store _ ih => exact (advances_execute _ state store).sound ih

end Executor

end GraphBatch
