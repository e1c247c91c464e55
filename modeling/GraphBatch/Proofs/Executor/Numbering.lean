import Mathlib.Data.Finset.Card
import GraphBatch.Proofs.Executor.History

/-!
# Batch numbers

While it works on a batch the unit of work is told the batch's number. A batch is the round that follows
the batches before it (`batches_rounds`), so that its number and the counters shown in it are known from
where it starts (`invocation_round`). A batch that draws nothing gives its number back (`number_rounds`), so
that the count of batches is the number of the batch numbers that the unit of work has ever been told
(`card_handed`).
-/

namespace GraphBatch

variable {θ ω σ τ : Type} [Client ω θ]

namespace Executor

/-! ## Batches as rounds -/

/-- The batch at a place of an execution is the round that follows the batches before it. -/
theorem batches_rounds (fuel : Nat) (ex : Executor σ τ) (state : σ) (store : ω) (i : Nat)
    {b : BatchRecord τ} (at_i : (rounds fuel ex state store).batches[i]? = some b) :
    let e := rounds i ex state store
    b = (e.executor.round e.state e.store).record := by
  fun_induction rounds fuel ex state store generalizing i with
  | case1 ex state store => cases at_i
  | case2 fuel ex state store r ending ended =>
    cases i with
    | zero =>
      cases at_i
      rfl
    | succ i => cases at_i
  | case3 fuel ex state store r going rest ih =>
    cases i with
    | zero =>
      cases at_i
      rfl
    | succ i =>
      have step : rounds (i + 1) ex state store =
          { rounds i r.executor r.state r.store with
            batches := r.record :: (rounds i r.executor r.state r.store).batches } := by
        rw [rounds]
        simp only [r, going]
      rw [step]
      exact ih i at_i

/-- What holds of every round of an executor, as far as it may have advanced, holds of the batches of an
execution. -/
theorem forall_batches_rounds {ex : Executor σ τ} {P : BatchRecord τ → Prop}
    (each : ∀ {bs : List (BatchRecord τ)} {ex' : Executor σ τ}, ex.Advances bs ex' →
      ∀ (state : σ) (store : ω), P (ex'.round state store).record)
    (fuel : Nat) (state : σ) (store : ω) : ∀ b ∈ (rounds fuel ex state store).batches, P b := by
  intro b mem
  obtain ⟨i, at_i⟩ := List.mem_iff_getElem?.mp mem
  rw [batches_rounds fuel ex state store i at_i]
  exact each (advances_rounds i ex state store) _ _

theorem forall_batches_executions {ex : Executor σ τ} {P : BatchRecord τ → Prop}
    (each : ∀ {bs : List (BatchRecord τ)} {ex' : Executor σ τ}, ex.Advances bs ex' →
      ∀ (state : σ) (store : ω), P (ex'.round state store).record)
    (entries : List (σ × ω)) : ∀ b ∈ (ex.executions entries).flatMap (·.batches), P b := by
  induction entries generalizing ex with
  | nil => exact fun b mem => absurd mem List.not_mem_nil
  | cons entry rest ih =>
    obtain ⟨state, store⟩ := entry
    intro b mem
    rcases List.mem_append.mp mem with mem | mem
    · exact forall_batches_rounds each _ state store b mem
    · exact ih (fun later => each ((ex.advances_execute state store).append later)) b mem

/-- In a batch the unit of work is told its number and shown the counters at its start, with the batch
itself and the steps so far counted in. -/
theorem invocation_round (ex : Executor σ τ) (state : σ) (store : ω) (i : Nat) {d : Delivery τ}
    (at_i : (ex.round state store).record.deliveries[i]? = some d) :
    d.invocation.batch = ex.stats.batches + 1 ∧
      d.invocation.stats =
        { ex.stats with
          batches := ex.stats.batches + 1
          totalSteps := ex.stats.totalSteps + i + 1 } :=
  Batch.invocation_tries (ex.tries_batch state store) i at_i

/-- A batch keeps its number exactly if it has drawn an item. -/
theorem number_round (ex : Executor σ τ) (state : σ) (store : ω) :
    (ex.round state store).executor.stats.batches +
        (if (ex.round state store).record.drew then 0 else 1) = (ex.round state store).record.number := by
  rw [stats_round]
  show ex.stats.batches + _ + _ = ex.stats.batches + 1
  cases (ex.round state store).record.drew <;> rfl

/-- So the last batch of an execution has the number that is counted, or the one that it gave back. -/
theorem number_rounds (fuel : Nat) (ex : Executor σ τ) (state : σ) (store : ω) :
    ∃ earlier last, (rounds (fuel + 1) ex state store).batches = earlier ++ [last] ∧
      (rounds (fuel + 1) ex state store).executor.stats.batches + (if last.drew then 0 else 1) =
        last.number := by
  induction fuel generalizing ex state store with
  | zero =>
    refine ⟨[], (ex.round state store).record, ?_⟩
    rw [rounds]
    cases (ex.round state store).ending with
    | some ending => exact ⟨rfl, ex.number_round state store⟩
    | none => exact ⟨rfl, ex.number_round state store⟩
  | succ fuel ih =>
    rw [rounds]
    cases (ex.round state store).ending with
    | some ending => exact ⟨[], _, rfl, ex.number_round state store⟩
    | none =>
      obtain ⟨earlier, last, batches, number⟩ := ih (ex.round state store).executor
        (ex.round state store).state (ex.round state store).store
      exact ⟨_ :: earlier, last, congrArg _ batches, number⟩

end Executor

/-! ## The numbers told -/

namespace BatchRecord

/-- The batch numbers that the unit of work was told. -/
def handed (bs : List (BatchRecord τ)) : Finset Nat :=
  ((bs.flatMap deliveries).map (·.invocation.batch)).toFinset

/-- The unit of work is told the number of the batch. -/
def Told (b : BatchRecord τ) : Prop :=
  ∀ d ∈ b.deliveries, d.invocation.batch = b.number

theorem handed_eq {bs : List (BatchRecord τ)} (told : ∀ b ∈ bs, b.Told) :
    handed bs = ((bs.filter drew).map (·.number)).toFinset := by
  ext number
  simp only [handed, List.mem_toFinset, List.mem_map, List.mem_flatMap, List.mem_filter, drew,
    Bool.not_eq_true', List.isEmpty_eq_false_iff]
  constructor
  · rintro ⟨d, ⟨b, mem, delivered⟩, rfl⟩
    exact ⟨b, ⟨mem, List.ne_nil_of_mem delivered⟩, (told b mem d delivered).symm⟩
  · rintro ⟨b, ⟨mem, drew⟩, rfl⟩
    obtain ⟨d, delivered⟩ := List.exists_mem_of_ne_nil _ drew
    exact ⟨d, ⟨b, mem, delivered⟩, told b mem d delivered⟩

end BatchRecord

namespace Executor

theorem told_round (ex : Executor σ τ) (state : σ) (store : ω) :
    (ex.round state store).record.Told := by
  intro d mem
  obtain ⟨i, at_i⟩ := List.mem_iff_getElem?.mp mem
  exact (ex.invocation_round state store i at_i).1

/-- The batch numbers that the unit of work was told in a list of executions. -/
def handed (calls : List (Execution σ τ ω)) : Finset Nat :=
  BatchRecord.handed (calls.flatMap (·.batches))

/-- A history counts the batch numbers that the unit of work was told in it. -/
theorem card_handed (ex : Executor σ τ) (entries : List (σ × ω)) :
    (ex.after entries).stats.batches = ex.stats.batches + (handed (ex.executions entries)).card := by
  have advances := ex.advances_executions entries
  rw [handed, BatchRecord.handed_eq (forall_batches_executions (fun _ => told_round _) entries),
    List.toFinset_card_of_nodup advances.nodup_numbers, List.length_map, ← List.countP_eq_length_filter]
  exact advances.batches

end Executor

end GraphBatch
