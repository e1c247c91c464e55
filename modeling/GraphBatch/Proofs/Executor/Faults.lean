import GraphBatch.Proofs.Executor.Healthy

/-!
# Batches on a store with faults

A steady store fails only by its pending faults, one transactional statement each. When the unit of work sends
one statement for each item and returns what became of it, an attempt at a batch goes one of two ways
(`Batch.course_attempt`): it loses its first item to a fault, or it meets none and commits a full batch or all
that is left. So a batch loses items one by one until it runs out of faults, items or attempts
(`Batch.faring_attempts`).
-/

namespace GraphBatch

variable {σ τ : Type}

/-! ## The unit of work -/

/-- For each item the unit of work sends one statement to its transaction and returns what became of it. -/
def UnitOfWork.Sends (work : UnitOfWork σ τ) (statement : Invocation τ → σ → Statement) : Prop :=
  ∀ invocation state, ∃ next : Except Failure (List Row) → σ,
    work invocation state = .inside (statement invocation state) fun reply =>
      .done (reply.map fun _ => (), next reply)

namespace UnitOfWork.Sends

variable {work : UnitOfWork σ τ} {statement : Invocation τ → σ → Statement} (h : work.Sends statement)
include h

theorem confined : work.Confined := by
  intro invocation state
  obtain ⟨next, eq⟩ := h invocation state
  rw [eq]
  exact .inside _ fun reply => .done _

/-- A pending fault is used up by the statement, of which nothing remains. -/
theorem run_faulty {store : Store} (online : store.offline = false) (faulty : 0 < store.faults)
    (invocation : Invocation τ) (state : σ) (t : Transaction) :
    ∃ text after, (work invocation state).run t store =
      ⟨(.error (.deadlock text), after), t, { store with faults := store.faults - 1 }, {}⟩ := by
  obtain ⟨next, eq⟩ := h invocation state
  refine ⟨(statement invocation state).text, next (.error (.deadlock (statement invocation state).text)), ?_⟩
  simp [eq, Program.run, Transaction.execute, online, faulty, Except.map]

/-- Without faults the statement is held back. -/
theorem run_faultless {store : Store} (online : store.offline = false) (faultless : store.faults = 0)
    (invocation : Invocation τ) (state : σ) (t : Transaction) :
    ∃ after, (work invocation state).run t store =
      ⟨(.ok (), after), { pending := t.pending ++ [statement invocation state] }, store,
        { inside := [statement invocation state] }⟩ := by
  obtain ⟨next, eq⟩ := h invocation state
  refine ⟨next (.ok (store.rowsFor (statement invocation state).text)), ?_⟩
  simp [eq, Program.run, Transaction.execute, online, faultless, Except.map]

/-- The store stays steady. -/
theorem steady_run {store : Store} (steady : store.Steady) (invocation : Invocation τ) (state : σ)
    (t : Transaction) : ((work invocation state).run t store).store.Steady := by
  rcases Nat.eq_zero_or_pos store.faults with faultless | faulty
  · obtain ⟨after, run⟩ := h.run_faultless steady.online faultless invocation state t
    rw [run]
    exact steady
  · obtain ⟨text, after, run⟩ := h.run_faulty steady.online faulty invocation state t
    rw [run]
    exact ⟨steady.online, steady.accepting⟩

theorem meets : work.Meets fun d => d.result = .ok () := by
  intro invocation state t store healthy
  obtain ⟨after, run⟩ := h.run_faultless healthy.online healthy.faultless invocation state t
  rw [run]
  exact ⟨healthy, rfl⟩

/-- A call that succeeds has sent its one statement. -/
theorem inside_eq {d : Delivery τ} (made : d.Of Store work) (ok : d.result = .ok ()) :
    ∃ state, d.account.inside = [statement d.invocation state] := by
  obtain ⟨state, t, store, result, account⟩ := made
  obtain ⟨next, eq⟩ := h d.invocation state
  refine ⟨state, ?_⟩
  rw [ok, eq] at result
  rw [account, eq]
  rcases executed : t.execute store (statement d.invocation state) with ⟨e | rows, t', store'⟩
  · simp [Program.run, executed, Except.map] at result
  · simp [Program.run, executed]

end UnitOfWork.Sends

/-! ## One attempt -/

namespace Batch

/-- The attempt delivers the next item, which meets a fault. -/
structure Lost (n : Nat) (p : Progress σ τ) (store : Store) (d : Delivery τ) (p' : Progress σ τ)
    (store' : Store) : Prop where
  faulty : 0 < store.faults
  faults : store'.faults = store.faults - 1
  items : p.cursor.left n = d.invocation.item :: p'.cursor.left n
  attempted : p'.attempted = 1

/-- The attempt delivers a full batch or all that is left, and meets no fault. -/
structure Taken (size n : Nat) (p : Progress σ τ) (store : Store) (ds : List (Delivery τ))
    (p' : Progress σ τ) (store' : Store) : Prop where
  spent : store.faults = 0 ∨ p.cursor.left n = []
  faults : store'.faults = store.faults
  items : ds.map (·.invocation.item) = (p.cursor.left n).take size
  left : p'.cursor.left n = (p.cursor.left n).drop size
  attempted : p'.attempted = ds.length

/-- How an attempt at a batch goes. -/
inductive Course (size n : Nat) (p : Progress σ τ) (store : Store) :
    Attempt (List (Delivery τ)) Unit → Progress σ τ → Store → Prop
  | lost {d : Delivery τ} {e : Failure} {p' : Progress σ τ} {store' : Store} :
      e.isTransient = true → Lost n p store d p' store' →
      Course size n p store (.ended [d] (.rolledBack e)) p' store'
  | taken {ds : List (Delivery τ)} {p' : Progress σ τ} {store' : Store} :
      Taken size n p store ds p' store' →
      Course size n p store (.ended ds (.committed ())) p' store'

variable {work : UnitOfWork σ τ} {statement : Invocation τ → σ → Statement} {number size n : Nat}
  {p p' : Progress σ τ} {store store' : Store} {a : Attempt (List (Delivery τ)) Unit}

theorem eq_ended_of_commits {a : Attempt (List (Delivery τ)) Unit} (commits : a.commits = true) :
    a = .ended a.deliveries (.committed ()) := by
  cases a with
  | unbegun e => cases commits
  | ended record ending =>
    cases ending with
    | committed result => rfl
    | commitFailed | declined | rolledBack | rollbackFailed => cases commits

/-- Without faults an attempt is as on a healthy store. -/
theorem course_healthy (sends : work.Sends statement) (healthy : store.Healthy)
    (within : p.cursor.Within n)
    (step : Runner.attempt (body work number size) (fun _ => true) p store = (a, p', store')) :
    Course size n p store a p' store' := by
  obtain ⟨still, accepted, ok⟩ := healthy_attempt sends.meets healthy step
  have calm := calm_attempt step within accepted fun d mem =>
    Delivery.storeFailure?_eq_none.mpr fun e failed => by cases (ok d mem).symm.trans failed
  rw [eq_ended_of_commits (calm.commits.trans (clean_iff.mpr ok))]
  refine .taken ⟨.inl healthy.faultless, ?_, calm.items, calm.left, calm.attempted⟩
  rw [still.faultless, healthy.faultless]

/-- A call of the body that finds the end of the input succeeds. -/
theorem body_of_end {cursor : Cursor τ} (drawn : p.cursor.tryAdvance = (none, cursor))
    (t : Transaction) (store : Store) : body work number (size + 1) p t store =
      ⟨.ok (), [], { p with attempted := 0, cursor }, t, store⟩ := by
  simp only [body, draw, drawn]
  rfl

/-- A call of the body whose first item meets a store failure is over with it. -/
theorem body_of_storeFailure {item : τ} {cursor : Cursor τ} {e : Failure} {t : Transaction} {store : Store}
    (drawn : p.cursor.tryAdvance = (some item, cursor))
    (failed : (handOver work number item { p with attempted := 0, cursor } t store).record.storeFailure? =
      some e) :
    body work number (size + 1) p t store =
      let call := handOver work number item { p with attempted := 0, cursor } t store
      ⟨.error e, [call.record], call.state, call.transaction, call.store⟩ := by
  simp only [body, draw, drawn, failed]

/-- With a fault pending an attempt ends with its first item, if there is one. -/
theorem course_faulty (sends : work.Sends statement) (steady : store.Steady) (faulty : 0 < store.faults)
    (size_pos : 0 < size) (within : p.cursor.Within n)
    (step : Runner.attempt (body work number size) (fun _ => true) p store = (a, p', store')) :
    Course size n p store a p' store' := by
  obtain ⟨size, rfl⟩ := Nat.exists_eq_add_one_of_ne_zero (Nat.ne_of_gt size_pos)
  let begun := { store with log := { store.log with begun := store.log.begun + 1 } }
  have still : begun.Steady := ⟨steady.online, steady.accepting⟩
  have began : store.begin = (.ok {}, begun) := steady.begin
  rcases drawn : p.cursor.tryAdvance with ⟨- | item, cursor⟩
  · obtain ⟨-, ended, nothing⟩ := within.tryAdvance_none drawn
    simp only [Runner.attempt, Store.client_begin, began, body_of_end drawn, Runner.conclude,
      Store.client_commit, still.commit] at step
    cases step
    refine .taken ⟨.inr nothing, rfl, ?_, ?_, rfl⟩
    · rw [nothing, List.take_nil]
      rfl
    · rw [nothing, List.drop_nil]
      exact Cursor.left_of_ended ended n
  · obtain ⟨-, left⟩ := within.tryAdvance_some drawn
    let call : Call Transaction Store (Delivery τ) (Progress σ τ) Unit :=
      handOver work number item { p with attempted := 0, cursor } {} begun
    have pending : 0 < begun.faults := faulty
    obtain ⟨text, after, run⟩ := sends.run_faulty still.online pending call.record.invocation p.state {}
    have failed : call.record.storeFailure? = some (.deadlock text) :=
      Delivery.storeFailure?_eq_some.mpr ⟨congrArg (·.value.1) run, rfl⟩
    simp only [Runner.attempt, Store.client_begin, began, body_of_storeFailure drawn failed,
      Runner.conclude, Runner.undo, Store.client_rollback] at step
    cases step
    exact .lost rfl ⟨faulty, congrArg (·.store.faults) run, left, rfl⟩

theorem course_attempt (sends : work.Sends statement) (steady : store.Steady) (size_pos : 0 < size)
    (within : p.cursor.Within n)
    (step : Runner.attempt (body work number size) (fun _ => true) p store = (a, p', store')) :
    Course size n p store a p' store' := by
  rcases Nat.eq_zero_or_pos store.faults with faultless | faulty
  · exact course_healthy sends ⟨steady.online, steady.accepting, faultless⟩ within step
  · exact course_faulty sends steady faulty size_pos within step

/-- Steadiness outlasts an attempt. -/
theorem steady_of_attempt (sends : work.Sends statement) (steady : store.Steady)
    (step : Runner.attempt (body work number size) (fun _ => true) p store = (a, p', store')) :
    store'.Steady :=
  (steady_attempt (I := Store.Steady) (P := fun _ => True) (fun _ => id)
    (fun _ _ _ kept => ⟨kept.online, kept.accepting⟩)
    (fun invocation state t _ steady => ⟨sends.steady_run steady invocation state t, trivial⟩)
    steady step).1

/-! ## The attempts at a batch -/

/-- Every attempt at the batch loses an item, up to the last one. -/
structure GivenUp (n tries : Nat) (p : Progress σ τ) (store : Store) (gone : List (Delivery τ))
    (run : Run Store (List (Delivery τ)) (Progress σ τ) Unit) : Prop where
  attempts : run.attempts.map Executor.outcome = gone.map fun d => ([d], false)
  result : run.result = .ok none
  length : gone.length = tries
  enough : tries ≤ store.faults
  faults : run.store.faults = store.faults - tries
  items : p.cursor.left n = gone.map (·.invocation.item) ++ run.state.cursor.left n
  attempted : run.state.attempted = 1

/-- The faults or the items come to an end with some attempts at the batch, and the next one commits. -/
structure Recovered (size n tries : Nat) (p : Progress σ τ) (store : Store) (gone chunk : List (Delivery τ))
    (run : Run Store (List (Delivery τ)) (Progress σ τ) Unit) : Prop where
  attempts : run.attempts.map Executor.outcome = gone.map (fun d => ([d], false)) ++ [(chunk, true)]
  result : run.result = .ok (some ())
  few : gone.length < tries
  length : gone.length = min store.faults (p.cursor.left n).length
  faults : run.store.faults = store.faults - gone.length
  lost : gone.map (·.invocation.item) = (p.cursor.left n).take gone.length
  taken : chunk.map (·.invocation.item) = ((p.cursor.left n).drop gone.length).take size
  left : run.state.cursor.left n = ((p.cursor.left n).drop gone.length).drop size
  attempted : run.state.attempted = chunk.length

/-- An item lost in the first attempt. -/
theorem GivenUp.cons {n tries : Nat} {p p₁ : Progress σ τ} {store store₁ : Store} {d : Delivery τ}
    {gone : List (Delivery τ)} {run : Run Store (List (Delivery τ)) (Progress σ τ) Unit} {e : Failure}
    (lost : Lost n p store d p₁ store₁) (h : GivenUp n tries p₁ store₁ gone run) :
    GivenUp n (tries + 1) p store (d :: gone)
      { run with attempts := .ended [d] (.rolledBack e) :: run.attempts } where
  attempts := by
    rw [List.map_cons, h.attempts]
    rfl
  result := h.result
  length := congrArg (· + 1) h.length
  enough := by
    have faulty := lost.faulty
    have enough := h.enough
    rw [lost.faults] at enough
    omega
  faults := by
    rw [h.faults, lost.faults]
    omega
  items := by
    rw [lost.items, h.items]
    rfl
  attempted := h.attempted

theorem Recovered.cons {size n tries : Nat} {p p₁ : Progress σ τ} {store store₁ : Store} {d : Delivery τ}
    {gone chunk : List (Delivery τ)} {run : Run Store (List (Delivery τ)) (Progress σ τ) Unit} {e : Failure}
    (lost : Lost n p store d p₁ store₁) (h : Recovered size n tries p₁ store₁ gone chunk run) :
    Recovered size n (tries + 1) p store (d :: gone) chunk
      { run with attempts := .ended [d] (.rolledBack e) :: run.attempts } where
  attempts := by
    rw [List.map_cons, h.attempts]
    rfl
  result := h.result
  few := Nat.succ_lt_succ h.few
  length := by
    have faulty := lost.faulty
    rw [List.length_cons, h.length, lost.faults, lost.items, List.length_cons]
    omega
  faults := by
    rw [h.faults, lost.faults, List.length_cons]
    omega
  lost := by
    rw [lost.items, List.length_cons, List.take_succ_cons, ← h.lost]
    rfl
  taken := by
    rw [lost.items, List.length_cons, List.drop_succ_cons, h.taken]
  left := by
    rw [lost.items, List.length_cons, List.drop_succ_cons, h.left]
  attempted := h.attempted

/-- Carrying on goes past a transient failure. -/
theorem settle_of_transient {a : Attempt (List (Delivery τ)) Unit} (transient : a.Transient) :
    Runner.settle .carryOn a = .ok none := by
  obtain ⟨record, e, rfl, transient⟩ := transient
  cases infrastructure : e.isInfrastructure with
  | false => simp [Runner.settle, Strategy.tolerates, infrastructure]
  | true => cases transient.symm.trans (Failure.not_isTransient_of_isInfrastructure infrastructure)

/-- A batch loses items to faults, one with each attempt, until it runs out of attempts, faults or items. -/
theorem faring_attempts (sends : work.Sends statement) (size_pos : 0 < size) (left count : Nat)
    (p : Progress σ τ) (store : Store) (steady : store.Steady) (within : p.cursor.Within n)
    (countable : count + left ≤ lastAttempt) :
    let run := Runner.attempts (body work number size) (fun _ => true) .carryOn left count p store
    ∃ gone, GivenUp n (left + 1) p store gone run ∨
      ∃ chunk, Recovered size n (left + 1) p store gone chunk run := by
  fun_induction Runner.attempts (body work number size) (fun _ => true) .carryOn left count p store with
  | case1 count p store p₁ store₁ left record e transient counted rest step ih =>
    have still := steady_of_attempt sends steady step
    obtain ⟨gone, faring⟩ := ih still ((moves_attempt step).draws.within within) (by omega)
    cases course_attempt sends steady size_pos within step with
    | @lost d _ _ _ _ lost =>
      refine ⟨d :: gone, ?_⟩
      rcases faring with givenUp | ⟨chunk, recovered⟩
      · exact .inl (givenUp.cons lost)
      · exact .inr ⟨chunk, recovered.cons lost⟩
  | case2 count p store p₁ store₁ left record e transient uncounted step =>
    exact absurd countable (by omega)
  | case3 count p store p₁ store₁ left record e transient step =>
    cases course_attempt sends steady size_pos within step with
    | lost transient' => exact absurd transient' transient
  | case4 left count p store last p₁ store₁ step other =>
    cases course_attempt sends steady size_pos within step with
    | @lost d e _ _ transient lost =>
      cases left with
      | succ left => exact (other left [d] e rfl rfl).elim
      | zero =>
        have settled := settle_of_transient (τ := τ) ⟨[d], e, rfl, transient⟩
        exact ⟨[d], .inl ⟨rfl, settled, rfl, lost.faulty, lost.faults, lost.items, lost.attempted⟩⟩
    | @taken ds _ _ taken =>
      have none : min store.faults (p.cursor.left n).length = 0 := by
        rcases taken.spent with faultless | nothing
        · rw [faultless, Nat.zero_min]
        · rw [nothing, List.length_nil, Nat.min_zero]
      exact ⟨[], .inr ⟨ds, rfl, rfl, Nat.succ_pos left, none.symm, taken.faults, rfl, taken.items,
        taken.left, taken.attempted⟩⟩

end Batch

end GraphBatch
