import GraphBatch.Executor
import GraphBatch.Proofs.Batch.Attempts

/-!
# The run of a batch

A batch is run as a series of attempts of which only the last can commit. The lemmas say what the
counters of the batch's progress stand for at the end of its run: `drawn` is the number of all
deliveries and, when the batch commits, `attempted` is the number of those that were kept.
-/

namespace GraphBatch

variable {θ ω σ τ : Type} [Client ω θ]

namespace Executor

variable (ex : Executor σ τ) (state : σ) (store : ω)

theorem tries_batch : Runner.Tries (Batch.body ex.work (ex.stats.batches + 1) ex.batchSize)
    (fun _ => true) (ex.start state) store (ex.batch state store).attempts
    (ex.batch state store).state (ex.batch state store).store :=
  Runner.tries_attempts ..

theorem moves_batch : (ex.start state).Moves
    ((ex.batch state store).attempts.flatMap Attempt.deliveries) (ex.batch state store).state :=
  Batch.moves_tries (ex.tries_batch state store)

theorem drawn_batch : (ex.batch state store).state.drawn =
    ((ex.batch state store).attempts.flatMap Attempt.deliveries).length := by
  rw [(ex.moves_batch state store).drawn]
  exact Nat.zero_add _

/-- The attempts before the last were all rolled back after transient failures. -/
theorem last_batch : ∃ before last, (ex.batch state store).attempts = before ++ [last] ∧
    (∀ a ∈ before, a.Transient) ∧
    ((ex.batch state store).result = Runner.settle .carryOn last ∨
      last.Transient ∧ (ex.batch state store).result = .error .attemptOverflow) :=
  Runner.attempts_last ..

/-- The last attempt at a batch that is committed or rolled back was made in a transaction of its own,
from where the attempts before it had led. -/
theorem batch_ok {committed? : Option Unit} (h : (ex.batch state store).result = .ok committed?) :
    ∃ before record ending p store₁, (ex.batch state store).attempts = before ++ [.ended record ending] ∧
      (∀ a ∈ before, a.Transient) ∧
      Runner.settle .carryOn (.ended record ending) = .ok committed? ∧
      (ex.start state).Moves (before.flatMap Attempt.deliveries) p ∧
      Runner.attempt (Batch.body ex.work (ex.stats.batches + 1) ex.batchSize) (fun _ => true) p store₁ =
        (.ended record ending, (ex.batch state store).state, (ex.batch state store).store) := by
  obtain ⟨before, last, attempts, transient, result⟩ := ex.last_batch state store
  have tries := ex.tries_batch state store
  rw [attempts] at tries
  obtain ⟨p, store₁, earlier, step⟩ := tries.split_last
  rcases result with settled | ⟨-, overflow⟩
  · rw [h] at settled
    cases last with
    | unbegun e => cases settled
    | ended record ending =>
      exact ⟨before, record, ending, p, store₁, attempts, transient, settled.symm,
        Batch.moves_tries earlier, step⟩
  · rw [h] at overflow
    cases overflow

theorem kept_of_transient {before : List (Attempt (List (Delivery τ)) Unit)}
    (transient : ∀ a ∈ before, a.Transient) : before.flatMap Attempt.kept = [] := by
  refine List.flatMap_eq_nil_iff.mpr fun a mem => ?_
  rw [Attempt.kept, (transient a mem).committed?]
  rfl

/-- The last attempt at a batch that is committed or rolled back is the one that `attempted` counts. -/
theorem attempted_batch {committed? : Option Unit}
    (h : (ex.batch state store).result = .ok committed?) :
    ∃ before record ending, (ex.batch state store).attempts = before ++ [.ended record ending] ∧
      (∀ a ∈ before, a.Transient) ∧
      Runner.settle .carryOn (.ended record ending) = .ok committed? ∧
      (ex.batch state store).state.attempted = record.length := by
  obtain ⟨before, record, ending, p, store₁, attempts, transient, settled, -, step⟩ :=
    ex.batch_ok state store h
  obtain ⟨t, begun, -, recorded, state_eq, -⟩ := Runner.attempt_ended step
  exact ⟨before, record, ending, attempts, transient, settled,
    by rw [← state_eq, Batch.attempted_body, recorded]⟩

/-- A batch that commits keeps the items of its last attempt. -/
theorem length_kept_batch (h : (ex.batch state store).result = .ok (some ())) :
    ((ex.batch state store).attempts.flatMap Attempt.kept).length =
      (ex.batch state store).state.attempted := by
  obtain ⟨before, record, ending, attempts, transient, settled, attempted⟩ :=
    ex.attempted_batch state store h
  rw [attempts, List.flatMap_append, kept_of_transient transient, attempted]
  cases ending with
  | committed result => simp [Attempt.kept, Attempt.committed?]
  | commitFailed result e => cases settled
  | declined result => cases settled
  | rolledBack e =>
    simp only [Runner.settle] at settled
    split at settled <;> cases settled
  | rollbackFailed e => cases settled

/-- A batch that does not commit keeps nothing. -/
theorem kept_batch (h : (ex.batch state store).result ≠ .ok (some ())) :
    (ex.batch state store).attempts.flatMap Attempt.kept = [] := by
  obtain ⟨before, last, attempts, transient, result⟩ := ex.last_batch state store
  have uncommitted : last.committed? = none := by
    rcases result with settled | ⟨transient, -⟩
    · unfold Attempt.committed?
      split
      · exact absurd settled h
      · rfl
    · exact transient.committed?
  rw [attempts, List.flatMap_append, kept_of_transient transient]
  simp [Attempt.kept, uncommitted]

/-- When the last attempt at a batch ends in a transaction of its own and has drawn nothing, it has
found the end of the input. -/
theorem ended_batch {committed? : Option Unit} (h : (ex.batch state store).result = .ok committed?)
    (nothing : (ex.batch state store).state.attempted = 0) (size : 0 < ex.batchSize) {n : Nat}
    (within : ex.cursor.Within n) : (ex.batch state store).state.cursor.ended = true := by
  obtain ⟨before, record, ending, p, store₁, -, -, -, moves, step⟩ := ex.batch_ok state store h
  obtain ⟨t, begun, -, -, state_eq, -⟩ := Runner.attempt_ended step
  rw [← state_eq] at nothing ⊢
  rw [Batch.attempted_body] at nothing
  exact Batch.ended_body _ _ size t begun (moves.draws.within within)
    (List.eq_nil_of_length_eq_zero nothing)

end Executor

end GraphBatch
