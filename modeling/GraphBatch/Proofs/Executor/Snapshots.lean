import Mathlib.Order.Defs.PartialOrder
import GraphBatch.Proofs.Executor.Delivery
import GraphBatch.Proofs.Executor.Numbering

/-!
# The counters while they count

The unit of work may look at the counters in each of its calls, and anyone may after each execution. What
is seen at these moments is read off where a batch starts (`snapshot_batch`), and from one moment to the
next no counter decreases (`Stats.Rises`), although the number of a batch is taken before it is known
whether the batch draws anything.
-/

namespace GraphBatch

variable {θ ω σ τ : Type} [Client ω θ]

namespace Stats

/-- Counters are compared one by one. -/
instance : Preorder Stats where
  le s s' := s.totalSteps ≤ s'.totalSteps ∧ s.batches ≤ s'.batches ∧
    s.successfulSteps ≤ s'.successfulSteps ∧ s.failedBatches ≤ s'.failedBatches
  le_refl s := ⟨le_rfl, le_rfl, le_rfl, le_rfl⟩
  le_trans s s' s'' h h' := ⟨h.1.trans h'.1, h.2.1.trans h'.2.1, h.2.2.1.trans h'.2.2.1,
    h.2.2.2.trans h'.2.2.2⟩

/-- What has succeeded was started, and what has failed was counted. -/
structure Balanced (s : Stats) : Prop where
  steps : s.successfulSteps ≤ s.totalSteps
  batches : s.failedBatches ≤ s.batches

theorem Balanced.failedSteps {s : Stats} (h : s.Balanced) :
    s.failedSteps + s.successfulSteps = s.totalSteps :=
  Nat.sub_add_cancel h.steps

/-- What is seen of the counters on their way from `s` to `s'`: none of them ever decreases. -/
structure Rises (s : Stats) (seen : List Stats) (s' : Stats) : Prop where
  le : s ≤ s'
  sorted : seen.Pairwise (· ≤ ·)
  above : ∀ o ∈ seen, s ≤ o
  below : ∀ o ∈ seen, o ≤ s'

namespace Rises

variable {s s' s'' : Stats} {seen seen' : List Stats}

theorem nil (s : Stats) : s.Rises [] s where
  le := le_rfl
  sorted := .nil
  above := by simp
  below := by simp

theorem append (h : s.Rises seen s') (h' : s'.Rises seen' s'') : s.Rises (seen ++ seen') s'' where
  le := h.le.trans h'.le
  sorted := by
    refine List.pairwise_append.mpr ⟨h.sorted, h'.sorted, ?_⟩
    intro o mem o' mem'
    exact (h.below o mem).trans (h'.above o' mem')
  above := by
    intro o mem
    rcases List.mem_append.mp mem with mem | mem
    · exact h.above o mem
    · exact h.le.trans (h'.above o mem)
  below := by
    intro o mem
    rcases List.mem_append.mp mem with mem | mem
    · exact (h.below o mem).trans h'.le
    · exact h'.below o mem

/-- At the end the counters may be looked at themselves. -/
theorem concat (h : s.Rises seen s') : s.Rises (seen ++ [s']) s' :=
  h.append ⟨le_rfl, List.pairwise_singleton _ _, by simp, by simp⟩

end Rises

end Stats

/-- The counters as seen in each call of the unit of work and then after the execution. -/
def Execution.snapshots (e : Execution σ τ ω) : List Stats :=
  e.deliveries.map (·.invocation.stats) ++ [e.executor.stats]

namespace Executor

/-! ## One batch -/

theorem rises_round (ex : Executor σ τ) (state : σ) (store : ω) :
    ex.stats.Rises ((ex.round state store).record.deliveries.map (·.invocation.stats))
      (ex.round state store).executor.stats where
  le := by
    rw [stats_round]
    exact ⟨Nat.le_add_right _ _, Nat.le_add_right _ _, Nat.le_add_right _ _, Nat.le_add_right _ _⟩
  sorted := by
    refine List.pairwise_map.mpr (List.pairwise_iff_getElem.mpr ?_)
    intro i j at_i at_j lt
    rw [(ex.invocation_round state store i (List.getElem?_eq_getElem at_i)).2,
      (ex.invocation_round state store j (List.getElem?_eq_getElem at_j)).2]
    refine ⟨?_, le_rfl, le_rfl, le_rfl⟩
    show _ + i + 1 ≤ _ + j + 1
    omega
  above := by
    intro o mem
    obtain ⟨d, delivered, rfl⟩ := List.mem_map.mp mem
    obtain ⟨i, at_i⟩ := List.mem_iff_getElem?.mp delivered
    rw [(ex.invocation_round state store i at_i).2]
    refine ⟨?_, Nat.le_succ _, le_rfl, le_rfl⟩
    show _ ≤ _ + i + 1
    omega
  below := by
    intro o mem
    obtain ⟨d, delivered, rfl⟩ := List.mem_map.mp mem
    obtain ⟨i, at_i⟩ := List.mem_iff_getElem?.mp delivered
    have bound : i < (ex.round state store).record.deliveries.length :=
      (List.getElem?_eq_some_iff.mp at_i).1
    -- What is seen counts the batch in, and the batch stays counted because it was seen from within.
    have drew : (ex.round state store).record.drew = true := by
      rw [BatchRecord.drew, Bool.not_eq_true', List.isEmpty_eq_false_iff]
      exact List.ne_nil_of_mem delivered
    rw [(ex.invocation_round state store i at_i).2, stats_round, drew]
    refine ⟨?_, le_rfl, Nat.le_add_right _ _, Nat.le_add_right _ _⟩
    show _ + i + 1 ≤ _ + _
    omega

/-- Each call of the unit of work sees the steps up to its own. -/
theorem steps_round (ex : Executor σ τ) (state : σ) (store : ω) :
    (ex.round state store).record.deliveries.map (·.invocation.stats.totalSteps) =
      List.range' (ex.stats.totalSteps + 1) (ex.round state store).record.deliveries.length := by
  refine List.ext_getElem (by simp) fun i at_i _ => ?_
  rw [List.length_map] at at_i
  rw [List.getElem_map, (ex.invocation_round state store i (List.getElem?_eq_getElem at_i)).2,
    List.getElem_range']
  show _ + i + 1 = _
  omega

/-- While a batch of an execution runs, the counters are those at its start, with the batch itself and
some steps counted in. -/
theorem snapshot_batch {fuel : Nat} {ex : Executor σ τ} {state : σ} {store : ω} {i : Nat}
    {b : BatchRecord τ} (at_i : (rounds fuel ex state store).batches[i]? = some b) {d : Delivery τ}
    (mem : d ∈ b.deliveries) :
    let opening := (rounds i ex state store).executor.stats
    d.invocation.batch = opening.batches + 1 ∧ ∃ steps, d.invocation.stats =
      { opening with batches := opening.batches + 1, totalSteps := opening.totalSteps + steps } := by
  obtain rfl := batches_rounds fuel ex state store i at_i
  obtain ⟨j, at_j⟩ := List.mem_iff_getElem?.mp mem
  obtain ⟨batch, stats⟩ := invocation_round _ _ _ j at_j
  exact ⟨batch, j + 1, stats⟩

/-! ## Histories -/

theorem rises_rounds (fuel : Nat) (ex : Executor σ τ) (state : σ) (store : ω) :
    ex.stats.Rises ((rounds fuel ex state store).deliveries.map (·.invocation.stats))
      (rounds fuel ex state store).executor.stats := by
  fun_induction rounds fuel ex state store with
  | case1 ex state store => exact .nil _
  | case2 fuel ex state store r ending ended =>
    rw [Execution.deliveries, List.flatMap_singleton]
    exact ex.rises_round state store
  | case3 fuel ex state store r going rest ih =>
    rw [Execution.deliveries, List.flatMap_cons, List.map_append]
    exact (ex.rises_round state store).append ih

theorem steps_rounds (fuel : Nat) (ex : Executor σ τ) (state : σ) (store : ω) :
    (rounds fuel ex state store).deliveries.map (·.invocation.stats.totalSteps) =
      List.range' (ex.stats.totalSteps + 1) (rounds fuel ex state store).deliveries.length := by
  fun_induction rounds fuel ex state store with
  | case1 ex state store => rfl
  | case2 fuel ex state store r ending ended =>
    rw [Execution.deliveries, List.flatMap_singleton]
    exact ex.steps_round state store
  | case3 fuel ex state store r going rest ih =>
    have total : r.executor.stats.totalSteps = ex.stats.totalSteps + r.record.deliveries.length := by
      rw [ex.stats_round state store]
    rw [Execution.deliveries] at ih ⊢
    rw [List.flatMap_cons, List.map_append, List.length_append, ex.steps_round state store, ih, total,
      Nat.add_right_comm, List.range'_append_1]

/-- The counters as seen in a list of executions. -/
def observed (calls : List (Execution σ τ ω)) : List Stats :=
  calls.flatMap Execution.snapshots

theorem rises_executions (ex : Executor σ τ) (entries : List (σ × ω)) :
    ex.stats.Rises (observed (ex.executions entries)) (ex.after entries).stats := by
  induction entries generalizing ex with
  | nil => exact .nil _
  | cons entry rest ih =>
    obtain ⟨state, store⟩ := entry
    exact (rises_rounds _ ex state store).concat.append (ih _)

theorem steps_executions (ex : Executor σ τ) (entries : List (σ × ω)) :
    ((ex.executions entries).flatMap Execution.deliveries).map (·.invocation.stats.totalSteps) =
      List.range' (ex.stats.totalSteps + 1)
        ((ex.executions entries).flatMap Execution.deliveries).length := by
  induction entries generalizing ex with
  | nil => rfl
  | cons entry rest ih =>
    obtain ⟨state, store⟩ := entry
    have total : (ex.execute state store).executor.stats.totalSteps =
        ex.stats.totalSteps + (ex.execute state store).deliveries.length :=
      (ex.advances_execute state store).totalSteps
    rw [executions, List.flatMap_cons, List.map_append, List.length_append, ih, total,
      Nat.add_right_comm, ← List.range'_append_1]
    exact congrArg (· ++ _) (steps_rounds _ ex state store)

namespace Advances

variable {ex ex' : Executor σ τ} {bs : List (BatchRecord τ)}

/-- From the start, the counters stay in balance. -/
theorem balanced (h : ex.Advances bs ex') (fresh : ex.stats = {}) : ex'.stats.Balanced where
  steps := by
    have le := (length_kept_lt_iff (bs.flatMap (·.attempts))).1
    rw [List.flatMap_assoc, List.flatMap_assoc] at le
    rw [h.successfulSteps, h.totalSteps, fresh]
    exact Nat.add_le_add_left le 0
  batches := by
    have le : bs.countP BatchRecord.loses ≤ bs.countP BatchRecord.drew :=
      List.countP_mono_left fun b _ => BatchRecord.drew_of_loses
    have failed := h.failedBatches
    have batches := h.batches
    simp only [fresh] at failed batches
    omega

end Advances

/-- Whenever they are looked at, the counters are in balance. -/
theorem balanced_observed {ex : Executor σ τ} (fresh : ex.stats = {}) (entries : List (σ × ω)) :
    ∀ s ∈ observed (ex.executions entries), s.Balanced := by
  intro s mem
  obtain ⟨call, mem, seen⟩ := List.mem_flatMap.mp mem
  obtain ⟨earlier, later, eq⟩ := List.append_of_mem mem
  obtain ⟨before, state, store, -, rfl⟩ := executions_split eq
  have until_call := ex.advances_executions before
  rcases List.mem_append.mp seen with within | final
  · obtain ⟨d, delivered, rfl⟩ := List.mem_map.mp within
    obtain ⟨b, batch, delivered⟩ := List.mem_flatMap.mp delivered
    obtain ⟨i, at_i⟩ := List.mem_iff_getElem?.mp batch
    obtain ⟨-, steps, stats⟩ := snapshot_batch at_i delivered
    -- The batch starts where the execution would stop if it were cut off before it.
    have opening := (until_call.append (advances_rounds i _ state store)).balanced fresh
    rw [stats]
    exact ⟨Nat.le_add_right_of_le opening.steps, Nat.le_add_right_of_le opening.batches⟩
  · obtain rfl := List.mem_singleton.mp final
    exact (until_call.append (advances_execute _ state store)).balanced fresh

/-- **Live counters.** Whenever they are looked at in a history, the successful steps are among all steps
and the failed batches among all batches. Calls number `1, 2, …` of the unit of work see that many steps,
all steps are calls, and all batches are batch numbers that were told. A call sees the number it is told as
the count of batches, and the successful steps and failed batches as they were when its batch started. No
counter is ever seen to decrease. -/
theorem live_counters {b : Builder σ τ} {items : Sequence τ} {ex : Executor σ τ}
    (built : b.input items = .ok ex) (entries : List (σ × ω)) :
    let calls := ex.executions entries
    let stats := (ex.after entries).stats
    (∀ s ∈ observed calls, s.successfulSteps ≤ s.totalSteps ∧ s.failedBatches ≤ s.batches ∧
        s.failedSteps + s.successfulSteps = s.totalSteps) ∧
      (calls.flatMap Execution.deliveries).map (·.invocation.stats.totalSteps) =
        List.range' 1 stats.totalSteps ∧
      stats.totalSteps = (calls.flatMap Execution.deliveries).length ∧
      (∀ (state : σ) (store : ω) (i : Nat) (b : BatchRecord τ),
        ((ex.after entries).execute state store).batches[i]? = some b →
        ∀ d ∈ b.deliveries,
          let opening := (rounds i (ex.after entries) state store).executor.stats
          d.invocation.stats.batches = d.invocation.batch ∧
            d.invocation.batch = opening.batches + 1 ∧
            d.invocation.stats.successfulSteps = opening.successfulSteps ∧
            d.invocation.stats.failedBatches = opening.failedBatches) ∧
      stats.batches = (handed calls).card ∧
      (observed calls).Pairwise (· ≤ ·) := by
  intro calls stats
  obtain ⟨-, -, fresh⟩ := sound_of_input built
  have total : stats.totalSteps = (calls.flatMap Execution.deliveries).length := by
    have steps := (ex.advances_executions entries).totalSteps
    rw [fresh, List.flatMap_assoc] at steps
    exact steps.trans (Nat.zero_add _)
  refine ⟨?_, ?_, total, ?_, ?_, ?_⟩
  · intro s mem
    have balanced := balanced_observed fresh entries s mem
    exact ⟨balanced.steps, balanced.batches, balanced.failedSteps⟩
  · have steps := ex.steps_executions entries
    rw [fresh] at steps
    rw [total]
    exact steps
  · intro state store i b at_i d mem opening
    obtain ⟨batch, steps, stats⟩ := snapshot_batch at_i mem
    rw [stats]
    exact ⟨batch.symm, batch, rfl, rfl⟩
  · have batches := ex.card_handed entries
    rw [fresh] at batches
    exact batches.trans (Nat.zero_add _)
  · exact (ex.rises_executions entries).sorted

/-- A batch that is tried twice: all its calls see it as the first, and it is settled in the end. -/
theorem live_counters_busy :
    let calls := busyOver.executions [([], ({} : Store))]
    busyOnce.input (.ofList [7, 8, 9]) = .ok busyOver ∧
      observed calls = [⟨1, 1, 0, 0⟩, ⟨2, 1, 0, 0⟩, ⟨3, 1, 0, 0⟩, ⟨3, 1, 1, 1⟩] ∧
      (observed calls).Pairwise (· ≤ ·) := by
  intro calls
  have built : busyOnce.input (.ofList [7, 8, 9]) = .ok busyOver := rfl
  obtain ⟨-, -, -, -, -, sorted⟩ := live_counters built [([], ({} : Store))]
  exact ⟨built, by decide +kernel, sorted⟩

end Executor

end GraphBatch
