import Mathlib.Algebra.GroupWithZero.Nat
import GraphBatch.Proofs.Batch.Positions
import GraphBatch.Proofs.Executor.Numbering

/-!
# Positions in a history

From one item handed over to the next the position moves as `Delivery.Follows` allows, through
all batches of an executor's executions (`followed_executions`): a batch that is left before it is full
has met a store failure or the end of the input. The numbers of batches being distinct, what is known of
the attempts at one batch bounds all that is ever done under its number (`sum_le_of_number`).
-/

namespace GraphBatch

variable {θ ω σ τ : Type} [Client ω θ]

/-- Nothing is drawn from a cursor that is at its end, and it stays there. -/
theorem Cursor.Draws.of_ended {α : Type} {c c' : Cursor α} {items : List α} {n : Nat}
    (h : c.Draws items c') (within : c.Within n) (ended : c.ended = true) :
    items = [] ∧ c'.ended = true := by
  induction h with
  | nil c => exact ⟨rfl, ended⟩
  | item drawn _ ih =>
    have left := (within.tryAdvance_some drawn).2
    rw [left_of_ended ended] at left
    cases left
  | ending drawn _ ih =>
    obtain ⟨within, ended, -⟩ := within.tryAdvance_none drawn
    exact ih within ended

namespace Executor

/-! ## From item to item -/

/-- The deliveries that lead from one executor to another start in the batch after those of the first
and end in the last one of the second. -/
structure Followed (ex : Executor σ τ) (ds : List (Delivery τ)) (ex' : Executor σ τ) : Prop where
  positions : Delivery.Positions ex.batchSize (ex.stats.batches + 1) ex'.stats.batches
    ex'.cursor.ended ds
  batches : ds = [] → ex'.stats.batches = ex.stats.batches

theorem Followed.nil (ex : Executor σ τ) : ex.Followed [] ex := ⟨.nil .., fun _ => rfl⟩

theorem Followed.append {ex ex' ex'' : Executor σ τ} {bs bs' : List (BatchRecord τ)} (sound : ex.Sound)
    (h : ex.Followed (bs.flatMap BatchRecord.deliveries) ex') (advances : ex.Advances bs ex')
    (h' : ex'.Followed (bs'.flatMap BatchRecord.deliveries) ex'') (advances' : ex'.Advances bs' ex'') :
    ex.Followed ((bs ++ bs').flatMap BatchRecord.deliveries) ex'' := by
  have positions' := h'.positions
  rw [advances.batchSize] at positions'
  have isOver := advances'.draws.of_ended (advances.sound sound).within
  rw [List.flatMap_append]
  refine ⟨h.positions.join positions' ?_ ?_ ?_, ?_⟩
  · intro d mem d' next
    obtain ⟨batch, closes | ended⟩ := h.positions.getLast d mem
    · exact .batch closes (by rw [positions'.head d' next, batch])
    · have nothing := List.map_eq_nil_iff.mp (isOver ended).1
      rw [nothing] at next
      cases next
  · intro nothing
    rw [h.batches nothing]
  · intro nothing
    refine ⟨(h'.batches nothing).symm, fun d mem => ?_⟩
    exact (h.positions.getLast d mem).2.imp_right fun ended => (isOver ended).2
  · intro nothing
    obtain ⟨first, second⟩ := List.append_eq_nil_iff.mp nothing
    rw [h'.batches second, h.batches first]

theorem followed_round {ex : Executor σ τ} (sound : ex.Sound) (state : σ) (store : ω) :
    ex.Followed ([(ex.round state store).record].flatMap BatchRecord.deliveries)
      (ex.round state store).executor := by
  obtain ⟨before, last, attempts, transient, -⟩ := ex.last_batch state store
  have tries := ex.tries_batch state store
  rw [attempts] at tries
  have positions := Batch.positions_tries sound.within tries transient
  rw [← attempts] at positions
  change Delivery.Positions _ _ _ _ (ex.round state store).record.deliveries at positions
  have batches := congrArg Stats.batches (ex.stats_round state store)
  rw [List.flatMap_singleton]
  rw [BatchRecord.drew] at batches
  cases eq : (ex.round state store).record.deliveries with
  | nil =>
    rw [eq] at batches
    exact ⟨.nil .., fun _ => batches⟩
  | cons d ds =>
    rw [eq] at batches positions
    change (ex.round state store).executor.stats.batches = ex.stats.batches + 1 at batches
    rw [← batches] at positions
    refine ⟨?_, fun nothing => absurd nothing (List.cons_ne_nil d ds)⟩
    rw [← batches]
    exact positions

theorem followed_rounds (fuel : Nat) {ex : Executor σ τ} (sound : ex.Sound) (state : σ) (store : ω) :
    ex.Followed ((rounds fuel ex state store).batches.flatMap BatchRecord.deliveries)
      (rounds fuel ex state store).executor := by
  fun_induction rounds fuel ex state store with
  | case1 ex state store => exact .nil ex
  | case2 fuel ex state store r ending ended => exact followed_round sound state store
  | case3 fuel ex state store r going rest ih =>
    have advances : ex.Advances [r.record] r.executor := ex.advances_round state store
    exact (followed_round sound state store).append sound advances (ih (advances.sound sound))
      (advances_rounds fuel r.executor r.state r.store)

theorem followed_executions {ex : Executor σ τ} (sound : ex.Sound) (entries : List (σ × ω)) :
    ex.Followed (((ex.executions entries).flatMap (·.batches)).flatMap BatchRecord.deliveries)
      (ex.after entries) := by
  induction entries generalizing ex with
  | nil => exact .nil ex
  | cons entry rest ih =>
    obtain ⟨state, store⟩ := entry
    have advances := ex.advances_execute state store
    exact (followed_rounds ex.fuel sound state store).append sound advances
      (ih (advances.sound sound)) (advances_executions _ rest)

end Executor

/-! ## Under one number -/

/-- An item of the batch with this number is handed over in the attempt. -/
def Attempt.serves (number : Nat) (a : Attempt (List (Delivery τ)) Unit) : Bool :=
  a.deliveries.any (·.invocation.batch == number)

namespace BatchRecord

/-- The number of a batch that draws items is its own, so that what is done under a number is done in
one batch. -/
theorem sum_le_of_number {bs : List (BatchRecord τ)} {bound : Nat} {done : BatchRecord τ → Nat}
    (nodup : ((bs.filter drew).map (·.number)).Nodup) (number : Nat)
    (only : ∀ b ∈ bs, done b ≠ 0 → b.drew = true ∧ b.number = number)
    (le : ∀ b ∈ bs, done b ≤ bound) : (bs.map done).sum ≤ bound := by
  induction bs with
  | nil => exact Nat.zero_le bound
  | cons b bs ih =>
    have later := ih (nodup.sublist (((List.sublist_cons_self b bs).filter drew).map _))
      (fun b' mem => only b' (List.mem_cons_of_mem b mem))
      (fun b' mem => le b' (List.mem_cons_of_mem b mem))
    rw [List.map_cons, List.sum_cons]
    rcases Nat.eq_zero_or_pos (done b) with nothing | something
    · rwa [nothing, Nat.zero_add]
    · obtain ⟨drew, rfl⟩ := only b List.mem_cons_self (Nat.ne_of_gt something)
      rw [List.filter_cons_of_pos drew, List.map_cons, List.nodup_cons] at nodup
      have rest : (bs.map done).sum = 0 := by
        refine List.sum_eq_zero_iff_forall_eq_nat.mpr fun m mem => ?_
        obtain ⟨b', mem', rfl⟩ := List.mem_map.mp mem
        by_contra other
        obtain ⟨drew', same⟩ := only b' (List.mem_cons_of_mem b mem') other
        exact nodup.1 (List.mem_map.mpr ⟨b', List.mem_filter.mpr ⟨mem', drew'⟩, same⟩)
      rw [rest, Nat.add_zero]
      exact le b List.mem_cons_self

theorem drew_of_mem {b : BatchRecord τ} {d : Delivery τ} (mem : d ∈ b.deliveries) : b.drew = true := by
  rw [drew, Bool.not_eq_true', List.isEmpty_eq_false_iff]
  exact List.ne_nil_of_mem mem

/-- The attempts at a batch and the items handed over in it are as many as its executor allows. -/
structure Bounded (size maxRetries : Nat) (b : BatchRecord τ) : Prop where
  attempts : b.attempts.length ≤ maxRetries + 1
  deliveries : b.deliveries.length ≤ size * (maxRetries + 1)

section Under

variable {bs : List (BatchRecord τ)} {size maxRetries : Nat}
  (nodup : ((bs.filter drew).map (·.number)).Nodup) (told : ∀ b ∈ bs, b.Told)
  (bounded : ∀ b ∈ bs, b.Bounded size maxRetries) (number : Nat)
include nodup told bounded

theorem countP_serves_le :
    (bs.flatMap (·.attempts)).countP (Attempt.serves number) ≤ maxRetries + 1 := by
  rw [List.countP_flatMap]
  refine sum_le_of_number nodup number (fun b mem some => ?_) fun b mem =>
    List.countP_le_length.trans (bounded b mem).attempts
  obtain ⟨a, made, serves⟩ := List.countP_pos_iff.mp (Nat.pos_of_ne_zero some)
  obtain ⟨d, delivered, same⟩ := List.any_eq_true.mp serves
  have mem' : d ∈ b.deliveries := List.mem_flatMap_of_mem made delivered
  exact ⟨drew_of_mem mem', (told b mem d mem').symm.trans (beq_iff_eq.mp same)⟩

theorem countP_told_le : (bs.flatMap BatchRecord.deliveries).countP (·.invocation.batch == number) ≤
    size * (maxRetries + 1) := by
  rw [List.countP_flatMap]
  refine sum_le_of_number nodup number (fun b mem some => ?_) fun b mem =>
    List.countP_le_length.trans (bounded b mem).deliveries
  obtain ⟨d, mem', same⟩ := List.countP_pos_iff.mp (Nat.pos_of_ne_zero some)
  exact ⟨drew_of_mem mem', (told b mem d mem').symm.trans (beq_iff_eq.mp same)⟩

end Under

end BatchRecord

namespace Executor

theorem bounded_round (ex : Executor σ τ) (state : σ) (store : ω) :
    (ex.round state store).record.Bounded ex.batchSize ex.runner.maxRetries where
  attempts := Runner.length_attempts_le ..
  deliveries := (Batch.length_deliveries_tries (ex.tries_batch state store)).trans
    (Nat.mul_le_mul_left _ (Runner.length_attempts_le ..))

theorem bounded_executions (ex : Executor σ τ) (entries : List (σ × ω)) :
    ∀ b ∈ (ex.executions entries).flatMap (·.batches), b.Bounded ex.batchSize ex.runner.maxRetries := by
  refine forall_batches_executions (fun advances state store => ?_) entries
  rw [← advances.batchSize, ← advances.runner]
  exact bounded_round _ state store

/-- **Positions.** However often an executor is executed and whatever fails, the unit of work is told
positions that start at `(1, 1)` and move on as `Delivery.Follows` says. The batches that hand over items
are numbered from 1 without gaps, each number for one batch only; under a number there are at most one
attempt and the retries allowed, with a full batch of items in each of them. -/
theorem positions_of_history {b : Builder σ τ} {items : Sequence τ} {ex : Executor σ τ}
    (built : b.input items = .ok ex) (entries : List (σ × ω)) :
    let batches := (ex.executions entries).flatMap (·.batches)
    let deliveries := (ex.executions entries).flatMap Execution.deliveries
    (∀ d ∈ deliveries.head?, d.invocation.position = (1, 1)) ∧
      deliveries.IsChain (Delivery.Follows b.config.batchSize) ∧
      (∀ record ∈ batches, record.Told ∧ record.attempts.length ≤ b.config.maxRetries + 1) ∧
      (batches.filter BatchRecord.drew).map (·.number) =
        List.range' 1 (ex.after entries).stats.batches ∧
      ∀ number,
        (batches.flatMap (·.attempts)).countP (Attempt.serves number) ≤ b.config.maxRetries + 1 ∧
          deliveries.countP (·.invocation.batch == number) ≤
            b.config.batchSize * (b.config.maxRetries + 1) := by
  intro batches deliveries
  obtain ⟨sound, -, fresh⟩ := sound_of_input built
  obtain ⟨size, retries⟩ : ex.batchSize = b.config.batchSize ∧
      ex.runner.maxRetries = b.config.maxRetries := by
    unfold Builder.input at built
    split at built <;> cases built
    exact ⟨rfl, rfl⟩
  have flat : deliveries = batches.flatMap BatchRecord.deliveries := List.flatMap_assoc.symm
  have followed := (followed_executions sound entries).positions
  have advances := ex.advances_executions entries
  have told : ∀ record ∈ batches, record.Told :=
    forall_batches_executions (fun _ => told_round _) entries
  have bounded := ex.bounded_executions entries
  have count : batches.countP BatchRecord.drew = (ex.after entries).stats.batches := by
    rw [advances.batches, fresh]
    exact (Nat.zero_add _).symm
  rw [fresh] at followed
  rw [size, retries] at bounded
  rw [size] at followed
  rw [flat]
  refine ⟨followed.head, followed.chain, fun record mem => ⟨told record mem, (bounded record mem).attempts⟩,
    ?_, fun number => ⟨?_, ?_⟩⟩
  · rw [advances.numbers, fresh, ← count]
  · exact BatchRecord.countP_serves_le advances.nodup_numbers told bounded number
  · exact BatchRecord.countP_told_le advances.nodup_numbers told bounded number

/-- Batches of two items and one retry, by a unit of work to which something else happens at items 2, 5
and 7. -/
def wavering : Builder Unit Nat :=
  { work := fun invocation _ =>
      .done (match invocation.item with
        | 2 => .error (.transient "busy")
        | 5 => .error (.connection "lost")
        | 7 => .error (.unitOfWork "rejected")
        | _ => .ok (), ())
    config := { batchSize := 2, maxRetries := 1 } }

/-- The executor of these batches over eight items. -/
def waveringOver : Executor Unit Nat :=
  { work := wavering.work
    runner := wavering.runner
    batchSize := 2
    cursor := (Sequence.ofList [1, 2, 3, 4, 5, 6, 7, 8]).cursor
    length := 8 }

/-- The first batch is tried again, the second is left at its first item with the execution, and the third
goes on to its end. -/
theorem positions_of_history_wavering :
    let entries := [((), ({} : Store)), ((), {})]
    let deliveries := (waveringOver.executions entries).flatMap Execution.deliveries
    wavering.input (.ofList [1, 2, 3, 4, 5, 6, 7, 8]) = .ok waveringOver ∧
      deliveries.map (·.invocation.position) =
        [(1, 1), (1, 2), (1, 1), (1, 2), (2, 1), (3, 1), (3, 2), (4, 1)] ∧
      deliveries.IsChain (Delivery.Follows 2) := by
  intro entries deliveries
  have built : wavering.input (.ofList [1, 2, 3, 4, 5, 6, 7, 8]) = .ok waveringOver := rfl
  obtain ⟨-, chain, -⟩ := positions_of_history built entries
  exact ⟨built, by decide +kernel, chain⟩

end Executor

end GraphBatch
