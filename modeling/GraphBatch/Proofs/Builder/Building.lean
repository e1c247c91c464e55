import GraphBatch.Proofs.Builder.Preparation
import GraphBatch.Proofs.Cursor.Drawing
import GraphBatch.Proofs.Runner.Atomicity

/-!
# Building executors

Of the settings of a builder only the last batch size and the last number of retries count
(`Builder.config_withSettings`). A builder gives an executor unless its batch size is zero, and then it refuses
before anything else is done. An input that only a transaction can produce has to be supplied first, by an
attempt whose call returns it and whose transaction commits (`Callback.ComesTo`). Else the failure of the last
attempt is returned, and never one of the builder's own (`Builder.last_outcome`).
-/

namespace GraphBatch

variable {θ ω σ τ ι : Type} [Client ω θ]

/-! ## Settings -/

namespace Builder

def Setting.batchSize? : Setting → Option Nat
  | batchSize size => some size
  | maxRetries _ => none
  | configure config => some config.batchSize

def Setting.maxRetries? : Setting → Option Nat
  | batchSize _ => none
  | maxRetries count => some count
  | configure config => some config.maxRetries

/-- The last batch size that is set, 1000 if none is. -/
def lastBatchSize (settings : List Setting) : Nat :=
  (settings.filterMap Setting.batchSize?).getLast?.getD 1000

/-- The last number of retries that is set, 0 if none is. -/
def lastMaxRetries (settings : List Setting) : Nat :=
  (settings.filterMap Setting.maxRetries?).getLast?.getD 0

theorem config_set (b : Builder σ τ) (setting : Setting) : (b.set setting).config =
    { batchSize := setting.batchSize?.getD b.config.batchSize
      maxRetries := setting.maxRetries?.getD b.config.maxRetries } := by
  cases setting <;> rfl

theorem work_set (b : Builder σ τ) (setting : Setting) : (b.set setting).work = b.work := by
  cases setting <;> rfl

/-- The last setting of a kind wins over the earlier ones. -/
theorem getD_getLast?_filterMap_cons {α β : Type} (f : α → Option β) (a : α) (as : List α) (b : β) :
    ((a :: as).filterMap f).getLast?.getD b = (as.filterMap f).getLast?.getD ((f a).getD b) := by
  cases value : f a with
  | none => rw [List.filterMap_cons_none value, Option.getD_none]
  | some c => rw [List.filterMap_cons_some value, List.getLast?_cons, Option.getD_some, Option.getD_some]

theorem config_withSettings (b : Builder σ τ) (settings : List Setting) : (b.withSettings settings).config =
    { batchSize := (settings.filterMap Setting.batchSize?).getLast?.getD b.config.batchSize
      maxRetries := (settings.filterMap Setting.maxRetries?).getLast?.getD b.config.maxRetries } := by
  induction settings generalizing b with
  | nil => rfl
  | cons setting rest ih =>
    rw [getD_getLast?_filterMap_cons, getD_getLast?_filterMap_cons]
    have later : (b.withSettings (setting :: rest)).config = ((b.set setting).withSettings rest).config := rfl
    rw [later, ih, config_set]

theorem work_withSettings (b : Builder σ τ) (settings : List Setting) :
    (b.withSettings settings).work = b.work := by
  induction settings generalizing b with
  | nil => rfl
  | cons setting rest ih => exact (ih (b.set setting)).trans (b.work_set setting)

/-! ## What is built -/

/-- The executor that a unit of work and some settings make over some items: nothing has been counted, and
the cursor gives the items in order and then no other. -/
structure Builds (work : UnitOfWork σ τ) (settings : List Setting) (items : List τ) (ex : Executor σ τ) :
    Prop where
  work : ex.work = work
  batchSize : ex.batchSize = lastBatchSize settings
  pos : 1 ≤ ex.batchSize
  maxRetries : ex.runner.maxRetries = lastMaxRetries settings
  stats : ex.stats = ⟨0, 0, 0, 0⟩
  delivers : ∀ limit, (ex.cursor.drain limit).1 = items.take limit

variable {settings : List Setting}

theorem input_of_empty (work : UnitOfWork σ τ) (empty : lastBatchSize settings = 0) (items : Sequence τ) :
    (withSettings { work } settings).input items = .error (.validation "batch size must be at least 1") := by
  have size : (withSettings { work } settings).config.batchSize = 0 := by
    rw [config_withSettings]
    exact empty
  rw [input, if_pos size]
  rfl

theorem input_of_sized (work : UnitOfWork σ τ) (sized : lastBatchSize settings ≠ 0) (items : Sequence τ) :
    ∃ ex, (withSettings { work } settings).input items = .ok ex ∧
      Builds work settings items.toList ex := by
  have config := config_withSettings { work } settings
  have size : (withSettings { work } settings).config.batchSize = lastBatchSize settings := by
    rw [config]
    rfl
  have retries : (withSettings { work } settings).config.maxRetries = lastMaxRetries settings := by
    rw [config]
    rfl
  rw [input, if_neg (size ▸ sized)]
  refine ⟨_, rfl, ?_⟩
  exact
    { work := work_withSettings { work } settings
      batchSize := size
      pos := Nat.pos_of_ne_zero (size ▸ sized)
      maxRetries := retries
      stats := rfl
      delivers := items.within_cursor.drain_eq }

end Builder

/-! ## Supplying an input -/

namespace Callback

variable (callback : Callback ι (Sequence τ))

/-- What an attempt comes to that starts from here: the input if the call returns one and its transaction
commits, and else a failure. -/
def supply (state : ι) (store : ω) : Except Failure (Sequence τ) :=
  match Client.begin store with
  | (.error e, _) => .error e
  | (.ok t, opened) =>
    let call := callback.bodyOn state t opened
    match call.result with
    | .ok items => (Client.commit call.transaction call.store).1.map fun _ => items
    | .error e =>
      match (Client.rollback call.transaction call.store).1 with
      | .ok () => .error e
      | .error e' => .error e'

/-- The attempt that follows the attempts `before` comes to `outcome`. -/
def ComesTo (state : ι) (store : ω) (before : List (Attempt Account (Sequence τ)))
    (outcome : Except Failure (Sequence τ)) : Prop :=
  ∃ state₁ store₁, Runner.Tries callback.bodyOn (fun _ => true) state store before state₁ store₁ ∧
    callback.supply state₁ store₁ = outcome

theorem settle_attempt (state : ι) (store : ω) :
    Runner.settle .rethrow (Runner.attempt callback.bodyOn (fun _ => true) state store).1 =
      (callback.supply state store).map some := by
  unfold Runner.attempt supply
  rcases Client.begin store with ⟨e | t, opened⟩
  · rfl
  · dsimp only [Runner.conclude]
    generalize callback.bodyOn state t opened = call
    cases returned : call.result with
    | ok items =>
      rcases committed : Client.commit call.transaction call.store with ⟨e | ⟨⟩, closed⟩ <;>
        simp [Runner.settle, Except.map]
    | error e =>
      rcases undone : Client.rollback call.transaction call.store with ⟨e' | ⟨⟩, closed⟩ <;>
        simp [undone, Runner.undo, Runner.settle, Strategy.tolerates, Except.map]

end Callback

namespace Builder

variable {callback : Callback ι (Sequence τ)} {state : ι} {store : ω}

/-- The last attempt of a run of the callback decides its result, unless its successor cannot be counted. -/
theorem last_supply (runner : Runner) (callback : Callback ι (Sequence τ)) (state : ι) (store : ω) :
    let run := runner.run callback.bodyOn (fun _ => true) .rethrow state store
    (∃ before last outcome, run.attempts = before ++ [last] ∧ callback.ComesTo state store before outcome ∧
        run.result = outcome.map some) ∨
      run.result = .error .attemptOverflow ∧ lastAttempt ≤ runner.maxRetries := by
  intro run
  obtain ⟨before, last, attempts, -, result⟩ :=
    Runner.attempts_last callback.bodyOn (fun _ => true) .rethrow runner.maxRetries 1 state store
  have tries : Runner.Tries callback.bodyOn (fun _ => true) state store run.attempts run.state run.store :=
    Runner.tries_attempts ..
  rw [show run.attempts = before ++ [last] from attempts] at tries
  obtain ⟨state₁, store₁, earlier, here⟩ := tries.split_last
  have settled := callback.settle_attempt state₁ store₁
  rw [here] at settled
  have decided : run.result = Runner.settle .rethrow last →
      ∃ before last outcome, run.attempts = before ++ [last] ∧ callback.ComesTo state store before outcome ∧
        run.result = outcome.map some := by
    intro result
    exact ⟨before, last, _, attempts, ⟨state₁, store₁, earlier, rfl⟩, result.trans settled⟩
  by_cases countable : 1 + runner.maxRetries ≤ lastAttempt
  · exact .inl (decided ((Runner.attempts_split _ _ _ _ _ _ _ countable attempts).2 rfl))
  · rcases result with result | ⟨-, result⟩
    · exact .inl (decided result)
    · exact .inr ⟨result, by omega⟩

/-- An attempt that supplies an input is the last one, and its input is the result. -/
theorem result_of_supply {runner : Runner} {before after : List (Attempt Account (Sequence τ))}
    {a : Attempt Account (Sequence τ)} {items : Sequence τ}
    (split : (runner.run callback.bodyOn (fun _ => true) .rethrow state store).attempts =
      before ++ a :: after)
    (supplied : callback.ComesTo state store before (.ok items)) :
    after = [] ∧
      (runner.run callback.bodyOn (fun _ => true) .rethrow state store).result = .ok (some items) := by
  obtain ⟨state₁, store₁, tries, supply⟩ := supplied
  have made : Runner.Tries callback.bodyOn (fun _ => true) state store _ _ _ :=
    Runner.tries_attempts callback.bodyOn (fun _ => true) .rethrow runner.maxRetries 1 state store
  rw [show (Runner.attempts _ _ _ _ _ _ _).attempts = _ from split] at made
  obtain ⟨state₂, store₂, state₃, store₃, tries', here, -⟩ := made.split
  obtain ⟨rfl, rfl⟩ := tries.unique tries'
  have settled := callback.settle_attempt state₁ store₁
  rw [here, supply] at settled
  obtain ⟨record, rfl⟩ := Runner.settle_eq_some.mp settled
  refine Runner.attempts_final _ _ _ _ _ _ _ split ?_
  rintro ⟨record', e, same, -⟩
  cases same

/-- Where every result is accepted and every failure returned, no run reports a rollback. -/
theorem result_ne_none (runner : Runner) (callback : Callback ι (Sequence τ)) (state : ι) (store : ω) :
    (runner.run callback.bodyOn (fun _ => true) .rethrow state store).result ≠ .ok none := by
  intro rolledBack
  rcases last_supply runner callback state store with ⟨-, -, outcome, -, -, result⟩ | ⟨result, -⟩
  · cases outcome <;> cases rolledBack.symm.trans result
  · cases rolledBack.symm.trans result

/-- The executor is built from what the run of the callback gives. -/
theorem result_of_run {b : Builder σ τ} (size : b.config.batchSize ≠ 0)
    (outcome : Except Failure (Sequence τ))
    (ran : (b.runner.run callback.bodyOn (fun _ => true) .rethrow state store).result = outcome.map some) :
    (b.transactionalInput callback state store).result = outcome.bind b.input := by
  simp only [transactionalInput, if_neg size, ran]
  cases outcome <;> rfl

theorem attempts_transactionalInput {b : Builder σ τ} (size : b.config.batchSize ≠ 0) :
    (b.transactionalInput callback state store).attempts =
      (b.runner.run callback.bodyOn (fun _ => true) .rethrow state store).attempts := by
  simp only [transactionalInput, if_neg size]

/-- What the last attempt comes to is built or returned. -/
theorem last_outcome {b : Builder σ τ} (size : b.config.batchSize ≠ 0) (callback : Callback ι (Sequence τ))
    (state : ι) (store : ω) :
    let p := b.transactionalInput callback state store
    (∃ before last outcome, p.attempts = before ++ [last] ∧ callback.ComesTo state store before outcome ∧
        p.result = outcome.bind b.input) ∨
      p.result = .error .attemptOverflow ∧ lastAttempt ≤ b.config.maxRetries := by
  intro p
  rcases last_supply b.runner callback state store with
    ⟨before, last, outcome, attempts, comes, result⟩ | ⟨overflow, past⟩
  · have split : p.attempts = before ++ [last] := (attempts_transactionalInput size).trans attempts
    exact .inl ⟨before, last, outcome, split, comes, result_of_run size outcome result⟩
  · have failed : p.result = _ := result_of_run size (.error .attemptOverflow) overflow
    exact .inr ⟨failed, past⟩

/-- **Building.** When the last batch size that is set is zero, nothing is built from any input, and a callback
is not even called. Otherwise a ready input and a number of steps always make an executor. A callback makes one
exactly if an attempt at it supplies an input: that attempt is the last one, and the executor has its input.
If there is none, the failure of the last attempt is returned as it is, unless the attempts cannot be counted;
the run is never found to have been rolled back. -/
theorem builds_unless_empty (work : UnitOfWork σ τ) (stepping : UnitOfWork σ Unit) (settings : List Setting)
    (items : Sequence τ) (count : Nat) (callback : Callback ι (Sequence τ)) (state : ι) (store : ω) :
    let b : Builder σ τ := withSettings { work } settings
    let s : Builder σ Unit := withSettings { work := stepping } settings
    let p := b.transactionalInput callback state store
    let e : Failure := .validation "batch size must be at least 1"
    (lastBatchSize settings = 0 →
      b.input items = .error e ∧
        s.steps count = .error e ∧
        p = { result := .error e, state, store, attempts := [] } ∧
        (b.transactionalInput callback.counted (0, state) store).state = (0, state)) ∧
      (lastBatchSize settings ≠ 0 →
        (∃ ex, b.input items = .ok ex ∧ Builds work settings items.toList ex) ∧
          (∃ ex, s.steps count = .ok ex ∧ Builds stepping settings (List.replicate count ()) ex) ∧
          ((∃ ex, p.result = .ok ex) ↔
            ∃ before a after supplied, p.attempts = before ++ a :: after ∧
              callback.ComesTo state store before (.ok supplied)) ∧
          (∀ before a after supplied, p.attempts = before ++ a :: after →
            callback.ComesTo state store before (.ok supplied) →
            after = [] ∧ ∃ ex, p.result = .ok ex ∧ Builds work settings supplied.toList ex) ∧
          ∀ e, p.result = .error e →
            (∃ before last, p.attempts = before ++ [last] ∧
              callback.ComesTo state store before (.error e)) ∨
            e = .attemptOverflow ∧ lastAttempt ≤ lastMaxRetries settings) ∧
      (b.runner.run callback.bodyOn (fun _ => true) .rethrow state store).result ≠ .ok none := by
  intro b s p e
  have config : b.config = ⟨lastBatchSize settings, lastMaxRetries settings⟩ :=
    config_withSettings { work } settings
  refine ⟨?_, ?_, result_ne_none b.runner callback state store⟩
  · intro empty
    have size : b.config.batchSize = 0 := by rw [config, empty]
    refine ⟨input_of_empty work empty items, input_of_empty stepping empty _, ?_, ?_⟩
    · exact if_pos size
    · rw [transactionalInput, if_pos size]
  · intro sized
    have size : b.config.batchSize ≠ 0 := by rwa [config]
    have last := last_outcome size callback state store
    rw [config] at last
    have supplies : ∀ before a after supplied, p.attempts = before ++ a :: after →
        callback.ComesTo state store before (.ok supplied) →
        after = [] ∧ ∃ ex, p.result = .ok ex ∧ Builds work settings supplied.toList ex := by
      intro before a after supplied split comes
      rw [show p.attempts = _ from attempts_transactionalInput size] at split
      obtain ⟨none, result⟩ := result_of_supply split comes
      obtain ⟨ex, built, builds⟩ := input_of_sized work sized supplied
      have result : p.result = b.input supplied := result_of_run size (.ok supplied) result
      exact ⟨none, ex, result.trans built, builds⟩
    have stepped : ∃ ex, s.steps count = .ok ex ∧ Builds stepping settings (List.replicate count ()) ex := by
      rw [← Sequence.toList_replicate]
      exact input_of_sized stepping sized (Sequence.replicate count ())
    refine ⟨input_of_sized work sized items, stepped, ⟨?_, ?_⟩, supplies, ?_⟩
    · rintro ⟨ex, built⟩
      rcases last with ⟨before, last, outcome, attempts, comes, result⟩ | ⟨overflow, -⟩
      · cases outcome with
        | ok supplied => exact ⟨before, last, [], supplied, attempts, comes⟩
        | error e => cases built.symm.trans result
      · cases built.symm.trans overflow
    · rintro ⟨before, a, after, supplied, split, comes⟩
      obtain ⟨-, ex, result, -⟩ := supplies before a after supplied split comes
      exact ⟨ex, result⟩
    · intro e failed
      rcases last with ⟨before, last, outcome, attempts, comes, result⟩ | ⟨overflow, past⟩
      · cases outcome with
        | ok supplied =>
          obtain ⟨ex, built, -⟩ := input_of_sized work sized supplied
          cases (failed.symm.trans result).trans built
        | error e' =>
          cases failed.symm.trans result
          exact .inl ⟨before, last, attempts, comes⟩
      · cases failed.symm.trans overflow
        exact .inr ⟨rfl, past⟩

/-- The store is busy at the first call, and the second one supplies an input; with one more setting the
callback is not called. -/
theorem builds_unless_empty_busyInput :
    let work : UnitOfWork Unit Nat := fun _ _ => .done (.ok (), ())
    let settings : List Setting := [.batchSize 0, .maxRetries 5, .configure { batchSize := 2, maxRetries := 1 }]
    let emptied := settings ++ [.batchSize 0]
    let p := (withSettings { work } settings).transactionalInput busyInput 0 ({} : Store)
    lastBatchSize settings = 2 ∧ p.store.log = ⟨2, 1, 1⟩ ∧
      (∃ ex, p.result = .ok ex ∧ Builds work settings [1] ex) ∧
      lastBatchSize emptied = 0 ∧
      (withSettings { work } emptied).transactionalInput busyInput 0 ({} : Store) =
        { result := .error (.validation "batch size must be at least 1"), state := 0, store := {},
          attempts := [] } := by
  intro work settings emptied p
  have size : lastBatchSize settings = 2 := rfl
  have size' : lastBatchSize emptied = 0 := rfl
  let stepping : UnitOfWork Unit Unit := fun _ _ => .done (.ok (), ())
  obtain ⟨-, sized, -⟩ := builds_unless_empty work stepping settings (.ofList []) 0 busyInput 0 ({} : Store)
  obtain ⟨empty, -, -⟩ := builds_unless_empty work stepping emptied (.ofList []) 0 busyInput 0 ({} : Store)
  obtain ⟨-, -, -, supplies, -⟩ := sized (by rw [size]; decide)
  have split : p.attempts = [.ended {} (.rolledBack (.transient "busy"))] ++
      .ended {} (.committed (.ofList [1])) :: [] := rfl
  obtain ⟨-, built⟩ := supplies _ _ _ (.ofList [1]) split ⟨1, _, .cons rfl (.nil ..), rfl⟩
  rw [Sequence.toList_ofList] at built
  exact ⟨size, by decide +kernel, built, size', (empty size').2.2.1⟩

end Builder

end GraphBatch
