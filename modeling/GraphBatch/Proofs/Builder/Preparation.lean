import GraphBatch.Builder
import GraphBatch.Proofs.Runner.Retries

/-!
# Preparatory runs

An input that only a transaction can produce comes from a callback, which a builder runs with its own runner.
`Builder.PreparesOnce` says that this takes a single transaction, and `Builder.preparesOnce_iff` when it does:
unless the callback fails transiently and the builder allows retries. The calls are counted by the callback
itself (`Callback.counted`), which changes nothing else.
-/

namespace GraphBatch

variable {θ ω σ τ ι ρ α β : Type} [Client ω θ]

/-! ## Counting calls -/

/-- What is done with a program's value at its end changes nothing else. -/
theorem Program.run_bind_done (p : Program α) (f : α → β) (t : θ) (s : ω) :
    (p.bind fun a => .done (f a)).run t s =
      let o := p.run t s
      ⟨f o.value, o.transaction, o.store, o.account⟩ := by
  induction p generalizing t s with
  | done value => rfl
  | inside st next ih => rcases h : Client.inside t s st with ⟨e | rows, t', s'⟩ <;> simp [bind, run, h, ih]
  | outside st next ih => rcases h : Client.outside s st with ⟨e | rows, s'⟩ <;> simp [bind, run, h, ih]
  | switch sw next ih => simp [bind, run, ih]

/-- The callback with a count of its calls. -/
def Callback.counted (callback : Callback σ ρ) : Callback (Nat × σ) ρ := fun (calls, state) =>
  (callback state).bind fun (result, state) => .done (result, (calls + 1, state))

theorem Callback.bodyOn_counted (callback : Callback σ ρ) (calls : Nat) (state : σ) (t : θ) (store : ω) :
    callback.counted.bodyOn (calls, state) t store =
      let call := callback.bodyOn state t store
      ⟨call.result, call.record, (calls + 1, call.state), call.transaction, call.store⟩ := by
  simp only [bodyOn, counted, Program.run_bind_done]

namespace Runner

theorem attempt_counted (callback : Callback σ ρ) (accepts : ρ → Bool) (calls : Nat) (state : σ) (store : ω) :
    attempt callback.counted.bodyOn accepts (calls, state) store =
      let o := attempt callback.bodyOn accepts state store
      (o.1, (calls + [o.1].countP Attempt.begins, o.2.1), o.2.2) := by
  rcases began : Client.begin store with ⟨e | t, opened⟩
  · simp [attempt, began, Attempt.begins, Attempt.record?]
  · simp only [attempt, began, Callback.bodyOn_counted]
    rfl

/-- A callback is called once in each transaction that begins, and to count the calls changes nothing. -/
theorem run_counted (runner : Runner) (callback : Callback σ ρ) (accepts : ρ → Bool) (strategy : Strategy)
    (state : σ) (store : ω) :
    let run := runner.run callback.bodyOn accepts strategy state store
    runner.run callback.counted.bodyOn accepts strategy (0, state) store =
      { run with state := (run.attempts.countP Attempt.begins, run.state) } := by
  let f : List (Attempt Account ρ) → σ → ω → (Nat × σ) × ω := fun made state store =>
    ((made.countP Attempt.begins, state), store)
  refine attempts_along callback.bodyOn callback.counted.bodyOn f ?_ strategy runner.maxRetries 1 [] state store
  intro made state store o
  rw [attempt_counted]
  simp only [f, List.countP_append]
  rfl

end Runner

namespace Builder

/-- The number of times that the callback is called in a preparatory run. -/
def calls (b : Builder σ τ) (callback : Callback ι (Sequence τ)) (state : ι) (store : Store) : Nat :=
  (b.transactionalInput callback.counted (0, state) store).state.1

/-- A preparatory run opens one transaction and calls the callback once, and if this transaction fails, then
it returns the failure. -/
structure PreparesOnce (b : Builder σ τ) (callback : Callback ι (Sequence τ)) (state : ι) (store : Store) :
    Prop where
  begun : (b.transactionalInput callback state store).store.log.begun = store.log.begun + 1
  called : b.calls callback state store = 1
  failed : ∀ e, Runner.verdict callback.body (fun _ => true) .rethrow state store = .error e →
    (b.transactionalInput callback state store).result = .error e

/-- The run of the callback in which an input is prepared. -/
abbrev preparation (b : Builder σ τ) (callback : Callback ι (Sequence τ)) (state : ι) (store : Store) :
    Run Store Account ι (Sequence τ) :=
  b.runner.run callback.body (fun _ => true) .rethrow state store

variable {b : Builder σ τ} {callback : Callback ι (Sequence τ)} {state : ι} {store : Store}

/-- A failure of the run is returned. -/
theorem result_of_failed (size : b.config.batchSize ≠ 0) {e : Failure}
    (failed : (b.preparation callback state store).result = .error e) :
    (b.transactionalInput callback state store).result = .error e := by
  simp only [transactionalInput, if_neg size]
  rw [failed]

/-- The transactions of a preparatory run are the calls of the callback. -/
theorem calls_eq (size : b.config.batchSize ≠ 0) : b.calls callback state store =
    (b.preparation callback state store).attempts.countP Attempt.begins := by
  have counted := b.runner.run_counted callback (fun _ => true) .rethrow state store
  simp only [calls, transactionalInput, if_neg size, counted]

theorem begun_eq (size : b.config.batchSize ≠ 0) :
    (b.transactionalInput callback state store).store.log.begun =
      store.log.begun + b.calls callback state store := by
  have books := Runner.books_tries callback.accounted_body
    (Runner.tries_attempts callback.body (fun _ => true) .rethrow b.runner.maxRetries 1 state store)
  rw [calls_eq size]
  simp only [transactionalInput, if_neg size]
  exact books.begun

/-- If the first attempt is also the last one, then a single transaction is made. -/
theorem preparesOnce_of_last (size : b.config.batchSize ≠ 0) (online : store.offline = false)
    (last : b.config.maxRetries = 0 ∨ ¬ callback.body.FailsTransiently state store) :
    b.PreparesOnce callback state store := by
  rcases step : Runner.attempt callback.body (fun _ => true) state store with ⟨a, state₁, store₁⟩
  have run : b.preparation callback state store =
      ⟨Runner.settle .rethrow a, state₁, store₁, [a]⟩ := by
    refine Runner.attempts_of_last .rethrow b.config.maxRetries 1 step ?_
    rwa [Runner.transient_iff step]
  have called : b.calls callback state store = 1 := by
    rw [calls_eq size, run]
    exact List.countP_singleton.trans (if_pos (Runner.begins_of_online online step))
  refine ⟨?_, called, ?_⟩
  · rw [begun_eq size, called]
  · intro e failed
    apply result_of_failed size
    rw [run, Runner.settle_eq_verdict step, failed]

/-- If the callback fails transiently and there is a retry, then either the retry begins a second transaction,
or what it finds is returned in place of the callback's failure. -/
theorem not_preparesOnce_of_retry (size : b.config.batchSize ≠ 0) (online : store.offline = false)
    (retry : b.config.maxRetries ≠ 0) (transient : callback.body.FailsTransiently state store) :
    ¬ b.PreparesOnce callback state store := by
  intro once
  obtain ⟨left, retries⟩ := Nat.exists_eq_add_one_of_ne_zero retry
  rcases step : Runner.attempt callback.body (fun _ => true) state store with ⟨a, state₁, store₁⟩
  have transient := (Runner.transient_iff step).mpr transient
  let rest := Runner.attempts callback.body (fun _ => true) .rethrow left 2 state₁ store₁
  have run : b.preparation callback state store = { rest with attempts := a :: rest.attempts } := by
    rw [preparation, Runner.run, runner, retries]
    exact Runner.attempts_of_transient .rethrow left (by decide) step transient
  rcases again : Runner.attempt callback.body (fun _ => true) state₁ store₁ with ⟨a', state₂, store₂⟩
  cases a' with
  | ended record ending =>
    obtain ⟨as, attempts⟩ := Runner.attempts_of_first .rethrow left 2 again
    change rest.attempts = _ at attempts
    have called := once.called
    rw [calls_eq size, run, attempts, List.countP_cons_of_pos (Runner.begins_of_online online step),
      List.countP_cons_of_pos rfl] at called
    omega
  | unbegun e' =>
    obtain ⟨rfl, -⟩ := Store.begin_error (Runner.attempt_unbegun again).2
    have unbegun : rest = ⟨.error .storeOffline, state₂, store₂, [.unbegun .storeOffline]⟩ := by
      refine Runner.attempts_of_last .rethrow left 2 again (.inr ?_)
      rintro ⟨record, e, same, -⟩
      cases same
    have offline : (b.preparation callback state store).result = .error .storeOffline := by
      rw [run, unbegun]
    -- the failure to be returned is transient, and the one that is returned is not
    obtain ⟨record, e, rfl, transient⟩ := transient
    have failed := once.failed e (Runner.settle_eq_verdict step).symm
    cases failed.symm.trans (result_of_failed size offline)
    cases transient

/-- **Preparatory runs.** A preparatory run on a store that is online opens a transaction for each call of the
callback, at least one and at most one more than the builder allows retries. It makes do with a single one, and
returns what this one fails with, exactly if the builder allows no retries or the first call does not fail
transiently: otherwise the retries meant for the batches are spent on it. -/
theorem preparesOnce_iff (b : Builder σ τ) (callback : Callback ι (Sequence τ)) (state : ι) (store : Store)
    (size : b.config.batchSize ≠ 0) (online : store.offline = false) :
    let calls := b.calls callback state store
    (b.transactionalInput callback state store).store.log.begun = store.log.begun + calls ∧
      1 ≤ calls ∧ calls ≤ b.config.maxRetries + 1 ∧
      (b.PreparesOnce callback state store ↔
        b.config.maxRetries = 0 ∨ ¬ callback.body.FailsTransiently state store) := by
  intro calls
  have calls_eq : calls = (b.preparation callback state store).attempts.countP Attempt.begins := calls_eq size
  refine ⟨begun_eq size, ?_, ?_, ?_, ?_⟩
  · rcases step : Runner.attempt callback.body (fun _ => true) state store with ⟨a, state₁, store₁⟩
    obtain ⟨as, attempts⟩ := Runner.attempts_of_first .rethrow b.config.maxRetries 1 step
    rw [calls_eq, preparation, Runner.run, runner, attempts,
      List.countP_cons_of_pos (Runner.begins_of_online online step)]
    exact Nat.succ_pos _
  · rw [calls_eq]
    exact Nat.le_trans List.countP_le_length (Runner.length_attempts_le ..)
  · intro once
    by_cases retry : b.config.maxRetries = 0
    · exact .inl retry
    · exact .inr fun transient => not_preparesOnce_of_retry size online retry transient once
  · exact preparesOnce_of_last size online

/-- An input of one item, for which the store is busy at the first call. -/
def busyInput : Callback Nat (Sequence Nat) := fun calls =>
  .done (if calls = 0 then .error (.transient "busy") else .ok (.ofList [1]), calls + 1)

/-- Batches of one item with a number of retries. -/
def retrying (maxRetries : Nat) : Builder Unit Nat :=
  { work := fun _ _ => .done (.ok (), ())
    config := { batchSize := 1, maxRetries } }

/-- Without retries the transient failure is returned after a single transaction. -/
theorem preparesOnce_iff_busyInput : (retrying 0).config.batchSize ≠ 0 ∧ ({} : Store).offline = false ∧
    (retrying 0).PreparesOnce busyInput 0 {} ∧
    ((retrying 0).transactionalInput busyInput 0 ({} : Store)).store.log = ⟨1, 0, 1⟩ ∧
    ((retrying 0).transactionalInput busyInput 0 ({} : Store)).result = .error (.transient "busy") := by
  have size : (retrying 0).config.batchSize ≠ 0 := Nat.one_ne_zero
  obtain ⟨-, -, -, single⟩ := preparesOnce_iff (retrying 0) busyInput 0 {} size rfl
  have once := single.mpr (.inl rfl)
  exact ⟨size, rfl, once, by decide +kernel, once.failed _ rfl⟩

/-- With a retry the callback is called in a second transaction, and its failure in the first one is not
returned. -/
theorem not_preparesOnce_busyInput : (retrying 1).config.batchSize ≠ 0 ∧ ({} : Store).offline = false ∧
    Runner.verdict busyInput.body (fun _ => true) .rethrow 0 {} = .error (.transient "busy") ∧
    ((retrying 1).transactionalInput busyInput 0 ({} : Store)).store.log = ⟨2, 1, 1⟩ ∧
    (retrying 1).calls busyInput 0 {} = 2 ∧
    ((retrying 1).transactionalInput busyInput 0 ({} : Store)).result.isOk = true ∧
    ¬ (retrying 1).PreparesOnce busyInput 0 {} := by
  have called : (retrying 1).calls busyInput 0 {} = 2 := by decide +kernel
  refine ⟨Nat.one_ne_zero, rfl, rfl, by decide +kernel, called, by decide +kernel, ?_⟩
  intro once
  cases called.symm.trans once.called

end Builder

end GraphBatch
