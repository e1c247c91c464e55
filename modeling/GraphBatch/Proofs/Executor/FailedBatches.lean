import Mathlib.Data.Finset.Card
import GraphBatch.Proofs.Executor.History

/-!
# The count of failed batches

A batch has failed when one of its items was handed over in an attempt that did not commit. An
execution that ends with a failure after its last batch has drawn items breaks off: it leaves before
the counters are brought up to date, so that the batch is lost without being counted. The count of
failed batches falls short by exactly these executions (`failedBatches_iff_unbroken`).
-/

namespace GraphBatch

variable {θ ω σ τ : Type} [Client ω θ]

namespace BatchRecord

/-- The numbers of the batches that have an item whose attempt did not commit. -/
def lost (bs : List (BatchRecord τ)) : Finset Nat :=
  ((bs.filter loses).map (·.number)).toFinset

theorem lost_eq_empty {bs : List (BatchRecord τ)} : lost bs = ∅ ↔ ∀ b ∈ bs, b.loses = false := by
  simp [lost, List.toFinset_eq_empty_iff]

end BatchRecord

namespace Executor

namespace Advances

variable {ex ex' : Executor σ τ} {bs : List (BatchRecord τ)}

/-- Batches that lose items have numbers of their own. -/
theorem card_lost (h : ex.Advances bs ex') : (BatchRecord.lost bs).card = bs.countP BatchRecord.loses := by
  have sublist : (bs.filter BatchRecord.loses).Sublist (bs.filter BatchRecord.drew) :=
    List.monotone_filter_right bs fun b => BatchRecord.drew_of_loses
  rw [BatchRecord.lost, List.toFinset_card_of_nodup (h.nodup_numbers.sublist (sublist.map _)), List.length_map,
    List.countP_eq_length_filter]

/-- From the start, the counters say that all is complete exactly if no batch has lost an item. -/
theorem isComplete (h : ex.Advances bs ex') (fresh : ex.stats = {}) :
    ex'.stats.isComplete = true ↔ BatchRecord.lost bs = ∅ := by
  obtain ⟨le, lt_iff⟩ := length_kept_lt_iff (bs.flatMap (·.attempts))
  rw [List.flatMap_assoc, List.flatMap_assoc] at le lt_iff
  have total : ex'.stats.totalSteps = (bs.flatMap BatchRecord.deliveries).length := by
    rw [h.totalSteps, fresh]
    exact Nat.zero_add _
  have successful : ex'.stats.successfulSteps = (bs.flatMap BatchRecord.kept).length := by
    rw [h.successfulSteps, fresh]
    exact Nat.zero_add _
  have any_iff : (bs.flatMap (·.attempts)).any Attempt.loses = true ↔ ¬ ∀ b ∈ bs, b.loses = false := by
    simp [BatchRecord.loses]
  rw [Stats.isComplete, beq_iff_eq, total, successful, BatchRecord.lost_eq_empty, ← not_iff_not,
    ← any_iff, ← lt_iff]
  exact ⟨fun ne => Nat.lt_of_le_of_ne le (Ne.symm ne), fun lt => Ne.symm (Nat.ne_of_lt lt)⟩

end Advances

/-- The batches of the executions of a history that lost items. -/
def lost (calls : List (Execution σ τ ω)) : Finset Nat :=
  BatchRecord.lost (calls.flatMap (·.batches))

theorem countP_isBroken_executions (ex : Executor σ τ) (entries : List (σ × ω)) :
    ((ex.executions entries).flatMap (·.batches)).countP BatchRecord.isBroken =
      (ex.executions entries).countP Execution.isBroken := by
  induction entries generalizing ex with
  | nil => rfl
  | cons entry rest ih =>
    obtain ⟨state, store⟩ := entry
    rw [executions, List.flatMap_cons, List.countP_append, List.countP_cons, ih, Nat.add_comm]
    exact congrArg _ (countP_isBroken_rounds _ ex state store)

/-- **The count of failed batches.** After any history of executions the count and the executions that
broke off make up the batches that lost items. So the count is right exactly if no execution broke
off; all is complete exactly if no batch lost items; and the count tells whether all is complete unless
it is zero although an execution broke off. -/
theorem failedBatches_iff_unbroken {b : Builder σ τ} {items : Sequence τ} {ex : Executor σ τ}
    (built : b.input items = .ok ex) (entries : List (σ × ω)) :
    let calls := ex.executions entries
    let stats := (ex.after entries).stats
    let unbroken := ∀ call ∈ calls, call.isBroken = false
    stats.failedBatches + calls.countP Execution.isBroken = (lost calls).card ∧
      (stats.failedBatches = (lost calls).card ↔ unbroken) ∧
      (stats.isComplete = true ↔ lost calls = ∅) ∧
      ((stats.isComplete = true ↔ stats.failedBatches = 0) ↔ stats.failedBatches ≠ 0 ∨ unbroken) := by
  intro calls stats unbroken
  obtain ⟨-, -, fresh⟩ := sound_of_input built
  have advances := ex.advances_executions entries
  have count : stats.failedBatches + calls.countP Execution.isBroken = (lost calls).card := by
    have failed := advances.failedBatches
    rw [fresh, countP_isBroken_executions, ← advances.card_lost] at failed
    exact failed.trans (Nat.zero_add _)
  have complete : stats.isComplete = true ↔ (lost calls).card = 0 :=
    (advances.isComplete fresh).trans Finset.card_eq_zero.symm
  have broken_iff : calls.countP Execution.isBroken = 0 ↔ unbroken := by
    simp [List.countP_eq_zero, unbroken]
  refine ⟨count, ?_, advances.isComplete fresh, ?_⟩
  · rw [← broken_iff]
    omega
  · rw [← broken_iff, complete]
    omega

/-- Batches of one item, by a unit of work that loses the connection at item 1 and rejects the others. -/
def disconnecting : Builder Unit Nat :=
  { work := fun invocation _ =>
      .done (.error (if invocation.item = 1 then .connection "lost" else .unitOfWork "rejected"), ())
    config := { batchSize := 1 } }

/-- The executor of these batches over some items. -/
def disconnected (items : List Nat) : Executor Unit Nat :=
  { work := disconnecting.work
    runner := disconnecting.runner
    batchSize := 1
    cursor := (Sequence.ofList items).cursor
    length := items.length }

theorem input_disconnecting (items : List Nat) :
    disconnecting.input (.ofList items) = .ok (disconnected items) := rfl

/-- Two executions, of which the first breaks off: both batches are lost and one is counted. -/
theorem failedBatches_iff_unbroken_disconnecting :
    let entries := [((), ({} : Store)), ((), {})]
    let calls := (disconnected [1, 2]).executions entries
    let stats := ((disconnected [1, 2]).after entries).stats
    stats = ⟨2, 2, 0, 1⟩ ∧ calls.countP Execution.isBroken = 1 ∧ (lost calls).card = 2 ∧
      (stats.failedBatches = (lost calls).card ↔ ∀ call ∈ calls, call.isBroken = false) := by
  intro entries calls stats
  have stats_eq : stats = ⟨2, 2, 0, 1⟩ := by decide +kernel
  have broken : calls.countP Execution.isBroken = 1 := by decide +kernel
  obtain ⟨count, right_iff, -⟩ := failedBatches_iff_unbroken (input_disconnecting [1, 2]) entries
  have failed : stats.failedBatches = 1 := congrArg Stats.failedBatches stats_eq
  refine ⟨stats_eq, broken, ?_, right_iff⟩
  calc
    (lost calls).card = stats.failedBatches + calls.countP Execution.isBroken := count.symm
    _ = 2 := by rw [failed, broken]

/-- A single batch that is lost with its connection is not counted, although not all is complete. -/
theorem failedBatches_ne_lost :
    let calls := (disconnected [1]).executions [((), ({} : Store))]
    let stats := ((disconnected [1]).after [((), ({} : Store))]).stats
    disconnecting.input (.ofList [1]) = .ok (disconnected [1]) ∧ lost calls = {1} ∧
      stats.failedBatches ≠ (lost calls).card ∧
      ¬ (stats.isComplete = true ↔ stats.failedBatches = 0) := by
  refine ⟨rfl, ?_, ?_, ?_⟩ <;> decide +kernel

end Executor

end GraphBatch
