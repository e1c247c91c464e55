import GraphBatch.Proofs.Runner.Retries

/-!
# Strategies

The strategy of a run has its say when the last attempt has been made, and not before: on every client, runs
that differ in the strategy alone make the same attempts and leave the same states (`Runner.attempts_strategy`).
On the journaling store all failures that bypass the strategy are infrastructure failures, so that to carry on
is to rethrow and then to forgive the others (`Runner.strategies_agree`).
-/

namespace GraphBatch

variable {θ ω κ σ ρ : Type}

/-- The body with a list of what it has been called with: its state, the transaction and the store. -/
def Body.traced (body : Body θ ω κ σ ρ) : Body θ ω κ (List (σ × θ × ω) × σ) ρ :=
  fun (calls, state) t store =>
    let call := body state t store
    { call with state := (calls ++ [(state, t, store)], call.state) }

namespace Runner

/-- Nothing but the result of a run depends on the strategy. -/
theorem attempts_strategy [Client ω θ] (body : Body θ ω κ σ ρ) (accepts : ρ → Bool)
    (strategy strategy' : Strategy) (left number : Nat) (state : σ) (store : ω) :
    let run := attempts body accepts strategy left number state store
    let run' := attempts body accepts strategy' left number state store
    run.attempts = run'.attempts ∧ run.state = run'.state ∧ run.store = run'.store := by
  induction left generalizing number state store with
  | zero =>
    rw [attempts, attempts]
    exact ⟨rfl, rfl, rfl⟩
  | succ left ih =>
    rw [attempts, attempts]
    rcases attempt body accepts state store with ⟨last, state₁, store₁⟩
    cases last with
    | unbegun e => exact ⟨rfl, rfl, rfl⟩
    | ended record ending =>
      cases ending with
      | rolledBack e =>
        by_cases transient : e.isTransient
        · by_cases counted : number < lastAttempt
          · obtain ⟨attempts, states, stores⟩ := ih (number + 1) state₁ store₁
            simp only [transient, counted, ↓reduceIte]
            exact ⟨congrArg _ attempts, states, stores⟩
          · simp only [transient, counted, ↓reduceIte, and_self]
        · simp only [transient]
          exact ⟨rfl, rfl, rfl⟩
      | committed | commitFailed | declined | rollbackFailed => exact ⟨rfl, rfl, rfl⟩

variable {body : Body Transaction Store κ σ ρ} {accepts : ρ → Bool} {state : σ} {store : Store}

/-- To begin and to commit fails as an infrastructure failure or not at all. So the strategies part only over
a failure of the body. -/
theorem verdict_carryOn : verdict body accepts .carryOn state store =
    match verdict body accepts .rethrow state store with
    | .ok r => .ok r
    | .error e => if e.isInfrastructure then .error e else .ok none := by
  unfold verdict
  rcases began : store.begin with ⟨e | t, opened⟩
  · obtain ⟨rfl, -⟩ := Store.begin_error began
    rfl
  · dsimp only
    cases (body state t opened).result with
    | ok r =>
      cases accepted : accepts r with
      | false => simp [accepted]
      | true =>
        rcases committed : (body state t opened).transaction.commit (body state t opened).store with
          ⟨e | ⟨⟩, closed⟩
        · obtain ⟨rfl, -⟩ := Transaction.commit_error committed
          simp [accepted, Except.map, Failure.commitRejected, Failure.isInfrastructure]
        · simp [accepted, Except.map]
    | error e => cases infrastructure : e.isInfrastructure <;> simp [infrastructure]

/-- The verdict of the last attempt is the result, for either strategy. -/
theorem result_eq_verdict (runner : Runner) (body : Body Transaction Store κ σ ρ) (accepts : ρ → Bool)
    (state : σ) (store : Store) (countable : runner.maxRetries < lastAttempt) :
    ∃ state₁ store₁, ∀ strategy, (runner.run body accepts strategy state store).result =
      verdict body accepts strategy state₁ store₁ := by
  obtain ⟨before, last, split, -⟩ := attempts_last body accepts .rethrow runner.maxRetries 1 state store
  have tries : Tries body accepts state store _ _ _ :=
    tries_attempts body accepts .rethrow runner.maxRetries 1 state store
  rw [split] at tries
  obtain ⟨state₁, store₁, -, here⟩ := tries.split_last
  refine ⟨state₁, store₁, ?_⟩
  intro strategy
  rw [← settle_eq_verdict here]
  have split : (runner.run body accepts strategy state store).attempts = before ++ [last] :=
    (attempts_strategy body accepts strategy .rethrow runner.maxRetries 1 state store).1.trans split
  exact (attempts_split body accepts strategy runner.maxRetries 1 state store (by omega) split).2 rfl

/-- **Strategies.** On the journaling store a run that carries on and one that rethrows make the same attempts,
call the body with the same states, transactions and stores in the same order, and leave the same state and
store. They also return the same, except that where the one returns a failure that is no infrastructure
failure, the other reports a rollback. -/
theorem strategies_agree (runner : Runner) (body : Body Transaction Store κ σ ρ) (accepts : ρ → Bool) (state : σ)
    (store : Store) (countable : runner.maxRetries < lastAttempt) :
    let rethrown := runner.run body accepts .rethrow state store
    let carried := runner.run body accepts .carryOn state store
    carried.attempts = rethrown.attempts ∧
      (runner.run body.traced accepts .carryOn ([], state) store).state =
        (runner.run body.traced accepts .rethrow ([], state) store).state ∧
      carried.state = rethrown.state ∧
      carried.store = rethrown.store ∧
      carried.result =
        match rethrown.result with
        | .ok r => .ok r
        | .error e => if e.isInfrastructure then .error e else .ok none := by
  intro rethrown carried
  obtain ⟨attempts, states, stores⟩ : carried.attempts = rethrown.attempts ∧
      carried.state = rethrown.state ∧ carried.store = rethrown.store := attempts_strategy ..
  refine ⟨attempts, ?_, states, stores, ?_⟩
  · exact (attempts_strategy body.traced accepts .carryOn .rethrow runner.maxRetries 1 ([], state) store).2.1
  · obtain ⟨state₁, store₁, result⟩ := runner.result_eq_verdict body accepts state store countable
    have carried_eq : carried.result = verdict body accepts .carryOn state₁ store₁ := result .carryOn
    have rethrown_eq : rethrown.result = verdict body accepts .rethrow state₁ store₁ := result .rethrow
    rw [carried_eq, rethrown_eq]
    exact verdict_carryOn

/-- A transient failure that outlasts the only retry is rethrown, or else carried on from. -/
theorem strategies_agree_stubborn :
    let runner : Runner := { maxRetries := 1 }
    let rethrown := runner.run stubborn.body (fun _ => true) .rethrow 0 ({} : Store)
    let carried := runner.run stubborn.body (fun _ => true) .carryOn 0 ({} : Store)
    runner.maxRetries < lastAttempt ∧ rethrown.result = .error (.transient "busy") ∧
      carried.store.log = ⟨2, 0, 2⟩ ∧ carried.store = rethrown.store ∧ carried.result = .ok none := by
  intro runner rethrown carried
  have countable : runner.maxRetries < lastAttempt := by decide
  obtain ⟨-, -, -, stores, results⟩ := strategies_agree runner stubborn.body (fun _ => true) 0 {} countable
  exact ⟨countable, rfl, by decide +kernel, stores, results⟩

end Runner

end GraphBatch
