import GraphBatch.Proofs.Client.Watched

/-!
# Retries

A run is retried for one reason only: the call before failed transiently, and there is a retry left. On the
journaling store this is told from the calls of the body alone (`Runner.transient_iff`), and so is what the
run returns, which depends on its last call and on nothing before it (`Runner.settle_eq_verdict`). Each call
is made in a transaction that has just begun and that no other call sees: `Body.noted` writes the
transactions down.
-/

namespace GraphBatch

variable {θ ω κ σ ρ : Type}

namespace Body

/-- The body on the watched client, with a list of the transactions that it was called in. -/
def noted (body : Body θ ω κ σ ρ) : Body (Nat × θ) (Watched ω) κ (List Nat × σ) ρ :=
  fun (ids, state) t w =>
    { body.watched state t w with state := (ids ++ [t.1], (body state t.2 w.store).state) }

/-- The body fails transiently when it is called from here, in a transaction that has just begun. -/
def FailsTransiently (body : Body Transaction Store κ σ ρ) (state : σ) (store : Store) : Prop :=
  ∃ opened e, store.begin = (.ok {}, opened) ∧ (body state {} opened).result = .error e ∧
    e.isTransient = true

end Body

namespace Runner

/-! ## The transactions of the calls -/

section Noted

variable [Client ω θ] (body : Body θ ω κ σ ρ) (accepts : ρ → Bool)

theorem attempt_noted (ids : List Nat) (state : σ) (w : Watched ω) :
    attempt body.noted accepts (ids, state) w =
      let o := attempt body accepts state w.store
      (o.1, (ids ++ List.range' w.phases.length ([o.1].countP Attempt.begins) 2, o.2.1),
        w.after ([o.1].countP Attempt.begins) o.2.2) := by
  rcases began : Client.begin w.store with ⟨e | t, store⟩
  · simp [attempt, Client.begin, began, Attempt.begins, Attempt.record?, Watched.after, Watched.inTurn]
  · have ended : conclude accepts (body.noted (ids, state) (w.phases.length, t)
          ⟨store, w.phases ++ [.begun w.phases.length]⟩) =
        ((conclude accepts (body state t store)).1,
          ⟨(conclude accepts (body state t store)).2,
            w.phases ++ [.begun w.phases.length] ++ [.ended w.phases.length]⟩) :=
      conclude_watched accepts (body state t store) w.phases.length _
    simp [attempt, Client.begin, began, ended, Attempt.begins, Watched.after, Watched.inTurn]
    constructor <;> rfl

/-- The transactions that begin in a run take turns, and the body is called once in each of them. -/
theorem run_noted (runner : Runner) (strategy : Strategy) (state : σ) (store : ω) :
    let run := runner.run body accepts strategy state store
    let calls := run.attempts.countP Attempt.begins
    runner.run body.noted accepts strategy ([], state) (⟨store, []⟩ : Watched ω) =
      { run with
        state := (List.range' 0 calls 2, run.state)
        store := ⟨run.store, Watched.inTurn 0 calls⟩ } := by
  let f : List (Attempt κ ρ) → σ → ω → (List Nat × σ) × Watched ω := fun made state store =>
    ((List.range' 0 (made.countP Attempt.begins) 2, state),
      ⟨store, Watched.inTurn 0 (made.countP Attempt.begins)⟩)
  refine attempts_along body body.noted f ?_ strategy runner.maxRetries 1 [] state store
  intro made state store o
  have ids : ∀ m n, List.range' 0 (m + n) 2 = List.range' 0 m 2 ++ List.range' (2 * m) n 2 := by
    intro m n
    rw [← List.range'_append, Nat.zero_add]
  rw [attempt_noted]
  simp only [f, Watched.after, Watched.length_inTurn, List.countP_append, ids, Watched.inTurn_add,
    Nat.zero_add]
  rfl

end Noted

/-! ## The last attempt -/

/-- What a run returns of which the last attempt starts from here. -/
def verdict (body : Body Transaction Store κ σ ρ) (accepts : ρ → Bool) (strategy : Strategy)
    (state : σ) (store : Store) : Except Failure (Option ρ) :=
  match store.begin with
  | (.error e, _) => .error e
  | (.ok t, opened) =>
    let call := body state t opened
    match call.result with
    | .ok r =>
      if accepts r then (call.transaction.commit call.store).1.map fun _ => some r
      else .ok none
    | .error e => if strategy = .carryOn ∧ e.isInfrastructure = false then .ok none else .error e

variable {body : Body Transaction Store κ σ ρ} {accepts : ρ → Bool} {strategy : Strategy}
  {state state' : σ} {store store' : Store} {a : Attempt κ ρ}

theorem settle_eq_verdict (h : attempt body accepts state store = (a, state', store')) :
    settle strategy a = verdict body accepts strategy state store := by
  cases a with
  | unbegun e =>
    obtain ⟨-, refused⟩ := attempt_unbegun h
    rw [Store.client_begin] at refused
    rw [verdict, refused]
    rfl
  | ended record ending =>
    obtain ⟨t, opened, began, -, -, concluded⟩ := attempt_ended h
    rw [Store.client_begin] at began
    rw [verdict, began]
    have cases := conclude_cases concluded
    cases ending with
    | committed r =>
      obtain ⟨returned, accepted, committed⟩ := cases
      rw [Store.client_commit] at committed
      simp [settle, returned, accepted, committed, Except.map]
    | commitFailed r e =>
      obtain ⟨returned, accepted, refused⟩ := cases
      rw [Store.client_commit] at refused
      simp [settle, returned, accepted, refused, Except.map]
    | declined r =>
      obtain ⟨returned, declined, -⟩ := cases
      simp [settle, returned, declined]
    | rolledBack e =>
      obtain ⟨failed, -⟩ := cases
      simp only [settle, failed]
      cases strategy <;> simp [Strategy.tolerates]
    | rollbackFailed e => cases cases

/-- As a rollback never fails, an attempt is rolled back after a transient failure exactly if its call
returned one. -/
theorem transient_iff (h : attempt body accepts state store = (a, state', store')) :
    a.Transient ↔ body.FailsTransiently state store := by
  cases a with
  | unbegun e =>
    obtain ⟨-, refused⟩ := attempt_unbegun h
    constructor
    · rintro ⟨record, e', same, -⟩
      cases same
    · rintro ⟨opened, e', began, -⟩
      cases began.symm.trans refused
  | ended record ending =>
    obtain ⟨t, opened, began, -, -, concluded⟩ := attempt_ended h
    obtain ⟨rfl, -⟩ := Store.begin_ok began
    have cases := conclude_cases concluded
    constructor
    · rintro ⟨record', e, same, transient⟩
      cases same
      exact ⟨opened, e, began, cases.1, transient⟩
    · rintro ⟨opened', e, began', failed, transient⟩
      obtain rfl : opened = opened' := congrArg Prod.snd (began.symm.trans began')
      cases ending with
      | rolledBack e' =>
        obtain rfl : e' = e := Except.error.inj (cases.1.symm.trans failed)
        exact ⟨record, e', rfl, transient⟩
      | rollbackFailed e' => cases cases
      | committed | commitFailed | declined => cases cases.1.symm.trans failed

/-- **Retries.** A body is called once in each transaction that begins in a run, at most once more than there
are retries, and each transaction is one of its own. Whatever the body does to the store, an attempt is made
from where those before it have led; another one follows it exactly if its call failed transiently while fewer
attempts than retries had been made before it, and if none follows, its verdict is the result of the run. -/
theorem retries_exactly (runner : Runner) (body : Body Transaction Store κ σ ρ) (accepts : ρ → Bool)
    (strategy : Strategy) (state : σ) (store : Store) (countable : runner.maxRetries < lastAttempt) :
    let run := runner.run body accepts strategy state store
    (∃ calls ≤ runner.maxRetries + 1,
      runner.run body.noted accepts strategy ([], state) (⟨store, []⟩ : Watched Store) =
        { run with
          state := (List.range' 0 calls 2, run.state)
          store := ⟨run.store, Watched.inTurn 0 calls⟩ }) ∧
      run.attempts ≠ [] ∧
      ∀ before a after, run.attempts = before ++ a :: after →
        ∃ state₁ store₁ state₂ store₂, Tries body accepts state store before state₁ store₁ ∧
          attempt body accepts state₁ store₁ = (a, state₂, store₂) ∧
          (after ≠ [] ↔ body.FailsTransiently state₁ store₁ ∧ before.length < runner.maxRetries) ∧
          (after = [] → run.result = verdict body accepts strategy state₁ store₁) := by
  intro run
  have countable : 1 + runner.maxRetries ≤ lastAttempt := by omega
  refine ⟨⟨run.attempts.countP Attempt.begins, ?_, ?_⟩, ?_, ?_⟩
  · exact Nat.le_trans List.countP_le_length (length_attempts_le ..)
  · exact run_noted body accepts runner strategy state store
  · exact attempts_ne_nil body accepts strategy runner.maxRetries 1 state store
  · intro before a after split
    have tries : Tries body accepts state store run.attempts run.state run.store := tries_attempts ..
    rw [split] at tries
    obtain ⟨state₁, store₁, state₂, store₂, earlier, here, -⟩ := tries.split
    obtain ⟨again, settled⟩ :=
      attempts_split body accepts strategy runner.maxRetries 1 state store countable split
    refine ⟨state₁, store₁, state₂, store₂, earlier, here, ?_, ?_⟩
    · rw [← transient_iff here]
      exact again
    · intro nothing
      rw [← settle_eq_verdict here]
      exact settled nothing

/-- A callback that finds the store busy whenever it is called. -/
def stubborn : Callback Nat Nat := fun calls =>
  .inside { text := "MATCH (n)" } fun _ => .done (.error (.transient "busy"), calls + 1)

/-- With two retries it is called in three transactions, and the third failure is carried on from. -/
theorem retries_exactly_stubborn :
    let runner : Runner := { maxRetries := 2 }
    let run := runner.run stubborn.body (fun _ => true) .carryOn 0 ({} : Store)
    let noted := runner.run stubborn.body.noted (fun _ => true) .carryOn ([], 0)
      (⟨{}, []⟩ : Watched Store)
    runner.maxRetries < lastAttempt ∧ run.store.log = ⟨3, 0, 3⟩ ∧
      (∃ calls ≤ 3, noted.state = (List.range' 0 calls 2, 3)) ∧
      ∃ before last state₁ store₁, run.attempts = before ++ [last] ∧ before.length = 2 ∧
        run.result = verdict stubborn.body (fun _ => true) .carryOn state₁ store₁ := by
  intro runner run noted
  have countable : runner.maxRetries < lastAttempt := by decide
  obtain ⟨⟨calls, le, noting⟩, some, each⟩ :=
    retries_exactly runner stubborn.body (fun _ => true) .carryOn 0 {} countable
  have last := (List.dropLast_concat_getLast some).symm
  obtain ⟨state₁, store₁, -, -, -, -, -, settled⟩ := each _ _ [] last
  refine ⟨countable, by decide +kernel, ⟨calls, le, ?_⟩, _, _, state₁, store₁, last, rfl, settled rfl⟩
  exact congrArg Run.state noting

end Runner

end GraphBatch
