import GraphBatch.Proofs.Batch.Books
import GraphBatch.Proofs.Executor.History

/-!
# Counters and store

On the journaling store, what an execution journals and what it counts as successful are both read
off the attempts that committed, so that the counters and the store cannot drift apart, however the
execution ends.
-/

namespace GraphBatch

variable {σ τ : Type}

/-- What series of attempts keep is what their committed attempts delivered. -/
theorem Attempt.flatMap_kept (as : List (Attempt (List (Delivery τ)) Unit)) :
    as.flatMap kept = (as.filter commits).flatMap deliveries := by
  induction as with
  | nil => rfl
  | cons a as ih =>
    rw [List.flatMap_cons, List.filter_cons, ih]
    cases committed : a.committed? with
    | none => simp [commits, kept, committed]
    | some record => simp [commits, kept, committed, deliveries_of_committed committed]

namespace Executor

/-- The books of the batches of an execution. -/
theorem books_rounds (fuel : Nat) (ex : Executor σ τ) (state : σ) (store : Store) :
    store.Books Batch.inside Batch.outside (rounds fuel ex state store).attempts
      (rounds fuel ex state store).store := by
  have books_round : ∀ (ex : Executor σ τ) (state : σ) (store : Store),
      store.Books Batch.inside Batch.outside (ex.round state store).record.attempts
        (ex.round state store).store := fun ex state store =>
    Runner.books_tries (Batch.accounted_body ..) (ex.tries_batch state store)
  fun_induction rounds fuel ex state store with
  | case1 ex state store => exact .nil store
  | case2 fuel ex state store r ending ended =>
    rw [Execution.attempts, List.flatMap_singleton]
    exact books_round ex state store
  | case3 fuel ex state store r going rest ih => exact (books_round ex state store).append ih

theorem books_execute (ex : Executor σ τ) (state : σ) (store : Store) :
    store.Books Batch.inside Batch.outside (ex.execute state store).attempts
      (ex.execute state store).store :=
  books_rounds ..

/-- If the unit of work never leaves its transaction, the attempts of an execution journal what they
keep. -/
theorem journaled_execute {ex : Executor σ τ} (confined : ex.work.Confined) (state : σ) (store : Store) :
    (ex.execute state store).attempts.flatMap (Attempt.journaled Batch.inside Batch.outside) =
      Batch.inside ((ex.execute state store).attempts.flatMap Attempt.kept) := by
  have each : ∀ a ∈ (ex.execute state store).attempts,
      a.journaled Batch.inside Batch.outside = Batch.inside a.kept :=
    forall_attempts_execute fun step => by
      have nothing : Batch.outside (Attempt.deliveries _) = [] := List.flatMap_eq_nil_iff.mpr
        fun d mem => (Batch.of_attempt step d mem).outside_eq_nil confined
      rw [Attempt.journaled_eq, nothing, List.nil_append]
  rw [List.flatMap_def, List.map_congr_left each, ← List.flatMap_def, Batch.inside, List.flatMap_assoc]
  rfl

/-- **Counters and store never drift apart.** Of a unit of work that never leaves its transaction, an
execution journals the statements that succeeded in the calls of committed attempts, in order of the
calls, and counts just these calls as successful; each of them succeeded, and each of these attempts
is a transaction that the store has committed. Nothing else is journaled or counted. -/
theorem committed_exactly {ex : Executor σ τ} (confined : ex.work.Confined) (state : σ) (store : Store) :
    let e := ex.execute state store
    let committed := e.attempts.filter Attempt.commits
    let calls := committed.flatMap Attempt.deliveries
    e.store.journal = store.journal ++ calls.flatMap (·.account.inside) ∧
      e.executor.stats.successfulSteps = ex.stats.successfulSteps + calls.length ∧
      (∀ d ∈ calls, d.result = .ok ()) ∧
      e.store.log.committed = store.log.committed + committed.length := by
  intro e committed calls
  have books := ex.books_execute state store
  have kept : e.attempts.flatMap Attempt.kept = calls := Attempt.flatMap_kept e.attempts
  refine ⟨?_, ?_, ?_, ?_⟩
  · rw [books.journal, journaled_execute confined, ← kept]
    rfl
  · rw [(ex.advances_execute state store).successfulSteps, ← kept, Execution.attempts,
      List.flatMap_assoc]
    rfl
  · rw [← kept]
    intro d mem
    obtain ⟨a, mem, kept⟩ := List.mem_flatMap.mp mem
    have each : ∀ a ∈ e.attempts, ∀ d ∈ a.kept, d.result = .ok () :=
      forall_attempts_execute fun step => Batch.result_kept_attempt step
    exact each a mem d kept
  · rw [books.committed, List.countP_eq_length_filter]

/-- A unit of work that sends one statement for each item and rejects the item `"c"` afterwards. -/
def rejecting : UnitOfWork Unit String := fun invocation _ =>
  .inside { text := invocation.item } fun _ =>
    .done (if invocation.item = "c" then .error (.rejectedItem "c") else .ok (), ())

/-- Three items in batches of two, the last of them rejected. -/
def rejectingRun : Execution Unit String :=
  Executor.execute
    { work := rejecting
      runner := {}
      batchSize := 2
      cursor := (Sequence.ofList ["a", "b", "c"]).cursor
      length := 3 }
    () ({} : Store)

/-- The statement of the rejected item succeeded, but it is neither journaled nor counted. -/
theorem committed_exactly_rejecting : rejecting.Confined ∧
    rejectingRun.executor.stats = ⟨3, 2, 2, 1⟩ ∧
    rejectingRun.store.journal.map (·.text) = ["a", "b"] ∧
    rejectingRun.store.journal = [] ++ ((rejectingRun.attempts.filter Attempt.commits).flatMap
      Attempt.deliveries).flatMap (·.account.inside) := by
  have confined : rejecting.Confined := fun invocation state => .inside _ fun reply => .done _
  refine ⟨confined, by decide +kernel, by decide +kernel, ?_⟩
  exact (committed_exactly confined () {}).1

end Executor

end GraphBatch
