import Mathlib.Data.List.Basic
import GraphBatch.Proofs.Client.Watched

/-!
# The result of a run and the store

What a run returns tells the truth about the store: there is a result exactly if the last attempt
committed it, and no attempt before the last one ever commits (`Runner.last_run`). On the journaling store
a run leaves nothing but the transaction of that attempt and the statements that the callback sent past its
transactions (`Runner.run_atomic`).
-/

namespace GraphBatch

variable {θ ω κ σ ρ : Type}

namespace Attempt

/-- The statements of an attempt that succeeded past its transaction. -/
def outside (a : Attempt Account ρ) : List Statement :=
  (a.record?.map (·.outside)).getD []

theorem commits_eq_true {a : Attempt κ ρ} :
    a.commits = true ↔ ∃ record r, a = .ended record (.committed r) := by
  constructor
  · intro committed
    cases a with
    | unbegun e => cases committed
    | ended record ending =>
      cases ending with
      | committed r => exact ⟨record, r, rfl⟩
      | commitFailed | declined | rolledBack | rollbackFailed => cases committed
  · rintro ⟨record, r, rfl⟩
    rfl

/-- A transaction that begins is either committed or not, and one that commits has begun. -/
theorem countP_begins (as : List (Attempt κ ρ)) :
    as.countP begins = as.countP commits + as.countP fun a => a.begins && !a.commits := by
  induction as with
  | nil => rfl
  | cons a as ih =>
    rw [List.countP_cons, List.countP_cons, List.countP_cons, ih]
    cases committed : a.commits with
    | false =>
      simp only [Bool.not_false, Bool.and_true, Bool.false_eq_true, ↓reduceIte]
      omega
    | true =>
      obtain ⟨record, r, rfl⟩ := commits_eq_true.mp committed
      simp only [begins, record?_ended, Option.isSome_some, Bool.not_true, Bool.and_false,
        Bool.false_eq_true, ↓reduceIte]
      omega

/-- Attempts that do not commit journal what was sent past their transactions. -/
theorem flatMap_journaled {as : List (Attempt Account ρ)} (h : ∀ a ∈ as, a.commits = false) :
    as.flatMap (journaled (·.inside) (·.outside)) = as.flatMap outside := by
  refine List.flatMap_congr fun a mem => ?_
  have none : a.committed? = none := Option.isNone_iff_eq_none.mp (Option.isSome_eq_false_iff.mp (h a mem))
  rw [journaled, none]
  exact List.append_nil _

end Attempt

namespace Runner

/-! ## Results -/

theorem settle_eq_some {strategy : Strategy} {a : Attempt κ ρ} {r : ρ} :
    settle strategy a = .ok (some r) ↔ ∃ record, a = .ended record (.committed r) := by
  constructor
  · intro settled
    cases a with
    | unbegun e => cases settled
    | ended record ending =>
      cases ending with
      | committed result =>
        cases settled
        exact ⟨record, rfl⟩
      | rolledBack e =>
        simp only [settle] at settled
        split at settled <;> cases settled
      | commitFailed | declined | rollbackFailed => cases settled
  · rintro ⟨record, rfl⟩
    rfl

section Results

variable [Client ω θ] (runner : Runner) (body : Body θ ω κ σ ρ) (accepts : ρ → Bool)
  (strategy : Strategy) (state : σ) (store : ω)

/-- Only the last attempt of a run can commit, and the run has a result exactly if it does. -/
theorem last_run :
    let run := runner.run body accepts strategy state store
    ∃ before last, run.attempts = before ++ [last] ∧ (∀ a ∈ before, a.commits = false) ∧
      ∀ r, run.result = .ok (some r) ↔ ∃ record, last = .ended record (.committed r) := by
  obtain ⟨before, last, attempts, transient, result⟩ :=
    attempts_last body accepts strategy runner.maxRetries 1 state store
  refine ⟨before, last, attempts, ?_, ?_⟩
  · intro a mem
    rw [Attempt.commits, (transient a mem).committed?]
    rfl
  · intro r
    rw [run]
    rcases result with settled | ⟨⟨record, e, rfl, -⟩, overflow⟩
    · rw [settled]
      exact settle_eq_some
    · rw [overflow]
      constructor
      · intro ok
        cases ok
      · rintro ⟨record', eq⟩
        cases eq

/-- A run has a result exactly if it committed one transaction; else it committed none. -/
theorem countP_commits_run :
    let run := runner.run body accepts strategy state store
    ((∃ r, run.result = .ok (some r)) ↔ run.attempts.countP Attempt.commits = 1) ∧
      ((∀ r, run.result ≠ .ok (some r)) → ∀ a ∈ run.attempts, a.commits = false) := by
  intro run
  obtain ⟨before, last, attempts, uncommitted, result⟩ := runner.last_run body accepts strategy state store
  have commits_iff : (∃ r, run.result = .ok (some r)) ↔ last.commits = true := by
    rw [Attempt.commits_eq_true, exists_comm]
    exact exists_congr result
  constructor
  · have none : before.countP Attempt.commits = 0 := List.countP_eq_zero.mpr fun a mem =>
      Bool.eq_false_iff.mp (uncommitted a mem)
    rw [commits_iff, attempts, List.countP_append, none, Nat.zero_add, List.countP_singleton]
    cases last.commits <;> simp
  · intro failed a mem
    rw [attempts] at mem
    rcases List.mem_append.mp mem with mem | mem
    · exact uncommitted a mem
    · obtain rfl := List.mem_singleton.mp mem
      refine Bool.eq_false_iff.mpr fun committed => ?_
      obtain ⟨r, ok⟩ := commits_iff.mpr committed
      exact failed r ok

end Results

/-- The runner itself drops no transaction: an event of a dropped one comes from within a call. -/
theorem transactionDropped_mem_events {runner : Runner} {strategy : Strategy} {inner : κ → List Event}
    {as : List (Attempt κ ρ)} (h : Event.transactionDropped ∈ runner.events strategy inner as) :
    ∃ a ∈ as, ∃ record, a.record? = some record ∧ Event.transactionDropped ∈ inner record := by
  obtain ⟨⟨a, number⟩, mem, event⟩ := List.mem_flatMap.mp h
  refine ⟨a, List.fst_mem_of_mem_zipIdx mem, ?_⟩
  cases a with
  | unbegun e => simp [attemptEvents, attemptEvents.starting, Event.transactionDropped] at event
  | ended record ending =>
    refine ⟨record, rfl, ?_⟩
    simp only [attemptEvents, List.cons_append, List.mem_cons, List.mem_append] at event
    rcases event with starting | within | closing
    · cases starting
    · exact within
    · cases ending with
      | rolledBack e =>
        simp only [attemptEvents.closing] at closing
        split at closing
        · simp [Event.transactionDropped] at closing
        · split at closing <;> simp [Event.transactionDropped] at closing
      | committed | commitFailed | declined | rollbackFailed =>
        simp [attemptEvents.closing, Event.transactionDropped] at closing

end Runner

/-- How a run ends that commits the result `r`: after `before` the callback is called a last time, in a
transaction that has just begun. It returns `r`, which is accepted, and the transaction is committed. The
journal gains what was sent past the transactions and then, in one block, what that last call sent inside. -/
def Run.CommitsLast (callback : Callback σ ρ) (accepts : ρ → Bool) (state : σ) (store : Store)
    (run : Run Store Account σ ρ) (r : ρ) : Prop :=
  ∃ before state₁ store₁ opened,
    Runner.Tries callback.body accepts state store before state₁ store₁ ∧
      store₁.begin = (.ok {}, opened) ∧
      let call := callback.body state₁ {} opened
      run.attempts = before ++ [.ended call.record (.committed r)] ∧
        (∀ a ∈ before, a.commits = false) ∧
        call.result = .ok r ∧ accepts r = true ∧
        call.transaction.commit call.store = (.ok (), run.store) ∧
        run.store.journal =
          store.journal ++ run.attempts.flatMap Attempt.outside ++ call.record.inside

namespace Runner

variable (runner : Runner) (callback : Callback σ ρ) (accepts : ρ → Bool) (strategy : Strategy)
  (state : σ) (store : Store)

/-- A run that has a result has just committed it. -/
theorem commitsLast_of_result {r : ρ} :
    let run := runner.run callback.body accepts strategy state store
    run.result = .ok (some r) → run.CommitsLast callback accepts state store r := by
  intro run ok
  obtain ⟨before, last, attempts, uncommitted, result⟩ :=
    runner.last_run callback.body accepts strategy state store
  obtain ⟨record, rfl⟩ := (result r).mp ok
  have tries := tries_attempts callback.body accepts strategy runner.maxRetries 1 state store
  have books := books_tries callback.accounted_body tries
  change Tries _ _ _ _ run.attempts run.state run.store at tries
  change run.attempts = _ at attempts
  rw [attempts] at tries
  obtain ⟨state₁, store₁, earlier, step⟩ := tries.split_last
  obtain ⟨t, opened, began, recorded, -, concluded⟩ := attempt_ended step
  obtain ⟨rfl, -⟩ := Store.begin_ok began
  obtain ⟨returned, accepted, committed⟩ := conclude_cases concluded
  refine ⟨before, state₁, store₁, opened, earlier, began, ?_, uncommitted, returned, accepted, committed, ?_⟩
  · rw [recorded]
    exact attempts
  · have journal : run.store.journal = _ := books.journal
    change run.store.journal = store.journal ++ run.attempts.flatMap _ at journal
    rw [journal, attempts, List.flatMap_append, Attempt.flatMap_journaled uncommitted, List.flatMap_append,
      List.flatMap_singleton, List.flatMap_singleton, Attempt.journaled_ended, recorded]
    simp [Attempt.outside, Attempt.commits, Attempt.committed?]

/-- **Runs are atomic.** Watched, a run goes as unwatched and every transaction ends, once, before the next
one begins and before the run returns; the runner drops none, and the log counts each as committed or as
rolled back. The run has a result exactly if one transaction was committed, then as its last step; without
a result it has committed nothing and journaled only what the callback sent past the transactions. -/
theorem run_atomic :
    let run := runner.run callback.body accepts strategy state store
    let watched := runner.run callback.bodyOn accepts strategy state (⟨store, []⟩ : Watched Store)
    let committed := run.attempts.countP Attempt.commits
    let rolledBack := run.attempts.countP fun a => a.begins && !a.commits
    watched = { run with store := ⟨run.store, Watched.inTurn 0 (committed + rolledBack)⟩ } ∧
      (∀ inner, Event.transactionDropped ∈ runner.events strategy inner run.attempts →
        ∃ a ∈ run.attempts, ∃ record, a.record? = some record ∧
          Event.transactionDropped ∈ inner record) ∧
      run.store.log =
        { begun := store.log.begun + (committed + rolledBack)
          committed := store.log.committed + committed
          rolledBack := store.log.rolledBack + rolledBack } ∧
      ((∃ r, run.result = .ok (some r)) ↔ run.store.log.committed = store.log.committed + 1) ∧
      (∀ r, run.result = .ok (some r) → run.CommitsLast callback accepts state store r) ∧
      ((∀ r, run.result ≠ .ok (some r)) →
        run.store.log.committed = store.log.committed ∧
          run.store.journal = store.journal ++ run.attempts.flatMap Attempt.outside) := by
  intro run watched committed rolledBack
  have books : store.Books (·.inside) (·.outside) run.attempts run.store :=
    books_tries callback.accounted_body (tries_attempts ..)
  obtain ⟨result_iff, no_result⟩ := runner.countP_commits_run callback.body accepts strategy state store
  have begun : run.attempts.countP Attempt.begins = committed + rolledBack :=
    Attempt.countP_begins run.attempts
  refine ⟨?_, ?_, ?_, ?_, ?_, ?_⟩
  · have watching := runner.run_watched callback.body accepts strategy state (⟨store, []⟩ : Watched Store)
    rw [← callback.bodyOn_watched] at watching
    rw [← begun]
    exact watching
  · intro inner
    exact transactionDropped_mem_events
  · ext
    · exact books.begun.trans (congrArg _ begun)
    · exact books.committed
    · exact books.rolledBack
  · rw [books.committed, Nat.add_left_cancel_iff]
    exact result_iff
  · intro r ok
    exact runner.commitsLast_of_result callback accepts strategy state store ok
  · intro failed
    have uncommitted : ∀ a ∈ run.attempts, a.commits = false := no_result failed
    have none : committed = 0 := List.countP_eq_zero.mpr fun a mem =>
      Bool.eq_false_iff.mp (uncommitted a mem)
    constructor
    · rw [books.committed]
      exact congrArg _ none
    · rw [books.journal, Attempt.flatMap_journaled uncommitted]

/-- A callback that fails transiently in its first call, after a statement inside its transaction and one
past it. -/
def busyCallback : Callback Nat Nat := fun calls =>
  .inside { text := "kept" } fun _ => .outside { text := "noted" } fun _ =>
    .done (if calls = 0 then .error (.transient "busy") else .ok calls, calls + 1)

/-- The statement of the first call inside its transaction is lost, the one past it is journaled. -/
theorem run_atomic_busy :
    let run := ({ maxRetries := 1 } : Runner).run busyCallback.body (fun _ => true) .rethrow 0 ({} : Store)
    run.result = .ok (some 1) ∧ run.store.log = ⟨2, 1, 1⟩ ∧
      run.store.journal.map (·.text) = ["noted", "noted", "kept"] ∧
      run.CommitsLast busyCallback (fun _ => true) 0 {} 1 := by
  intro run
  have ok : run.result = .ok (some 1) := rfl
  obtain ⟨-, -, -, -, last, -⟩ := run_atomic { maxRetries := 1 } busyCallback (fun _ => true) .rethrow 0 {}
  exact ⟨ok, by decide +kernel, by decide +kernel, last 1 ok⟩

end Runner

end GraphBatch
