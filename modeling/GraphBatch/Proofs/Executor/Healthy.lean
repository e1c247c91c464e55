import GraphBatch.Proofs.Executor.Chunks

/-!
# Executions on a healthy store

A healthy store grants all that it is asked. It stays healthy as long as no unit of work turns its
switches, so that nothing is refused in a whole execution, and what holds of the calls of the unit of work
on healthy stores holds of all its deliveries (`healthy_execute`).
-/

namespace GraphBatch

variable {σ τ : Type}

namespace Store

/-- The store is online and accepts commits: but for its pending faults no operation on it fails. -/
structure Steady (s : Store) : Prop where
  online : s.offline = false
  accepting : s.rejectsCommits = false

namespace Steady

variable {s : Store}

theorem begin (h : s.Steady) :
    s.begin = (.ok {}, { s with log := { s.log with begun := s.log.begun + 1 } }) := by
  rw [Store.begin, h.online]
  rfl

theorem commit (h : s.Steady) (t : Transaction) :
    t.commit s = (.ok (), { s with
      journal := s.journal ++ t.pending
      log := { s.log with committed := s.log.committed + 1 } }) := by
  rw [Transaction.commit, h.online, h.accepting]
  rfl

end Steady

/-- No operation on the store fails. -/
structure Healthy (s : Store) : Prop where
  online : s.offline = false
  accepting : s.rejectsCommits = false
  faultless : s.faults = 0

namespace Healthy

variable {s : Store}

theorem new : ({} : Store).Healthy := ⟨rfl, rfl, rfl⟩

theorem steady (h : s.Healthy) : s.Steady := ⟨h.online, h.accepting⟩

theorem inside (h : s.Healthy) (t : Transaction) (st : Statement) :
    t.execute s st = (.ok (s.rowsFor st.text), { pending := t.pending ++ [st] }, s) := by
  rw [Transaction.execute, h.online, h.faultless]
  rfl

end Healthy

end Store

/-- On a healthy store the calls of the unit of work are as `P` says, and the store stays healthy. -/
def UnitOfWork.Meets (work : UnitOfWork σ τ) (P : Delivery τ → Prop) : Prop :=
  ∀ (invocation : Invocation τ) (state : σ) (t : Transaction) (store : Store), store.Healthy →
    ((work invocation state).run t store).store.Healthy ∧
      P ⟨invocation, ((work invocation state).run t store).value.1,
        ((work invocation state).run t store).account⟩

/-- An attempt at a batch on a steady store is not refused. What each call of the unit of work keeps of the
store, without a look at the journal and the log, the attempt keeps too. -/
theorem Batch.steady_attempt {work : UnitOfWork σ τ} {I : Store → Prop} {P : Delivery τ → Prop}
    (steady : ∀ s : Store, I s → s.Steady)
    (frame : ∀ (s : Store) journal log, I s → I { s with journal, log })
    (each : ∀ (invocation : Invocation τ) (state : σ) (t : Transaction) (store : Store), I store →
      I ((work invocation state).run t store).store ∧
        P ⟨invocation, ((work invocation state).run t store).value.1,
          ((work invocation state).run t store).account⟩)
    {number size : Nat} {p p' : Progress σ τ} {store store' : Store}
    {a : Attempt (List (Delivery τ)) Unit} (start : I store)
    (step : Runner.attempt (body work number size) (fun _ => true) p store = (a, p', store')) :
    I store' ∧ a.refused = false ∧ ∀ d ∈ a.deliveries, P d := by
  cases a with
  | unbegun e =>
    obtain ⟨-, refused⟩ := Runner.attempt_unbegun step
    rw [Store.client_begin, (steady store start).begin] at refused
    cases refused
  | ended record ending =>
    obtain ⟨t, begun, began, rfl, -, concluded⟩ := Runner.attempt_ended step
    rw [Store.client_begin, (steady store start).begin] at began
    cases began
    let begun := { store with log := { store.log with begun := store.log.begun + 1 } }
    obtain ⟨still, delivered⟩ : I (body work number size p {} begun).store ∧
        ∀ d ∈ (body work number size p {} begun).record, P d :=
      kept_body (I := fun _ store => I store) each (frame store store.journal _ start)
    have cases := Runner.conclude_cases concluded
    cases ending with
    | committed result =>
      obtain ⟨-, -, committed⟩ := cases
      rw [Store.client_commit, (steady _ still).commit] at committed
      cases committed
      exact ⟨frame _ _ _ still, rfl, delivered⟩
    | commitFailed result e =>
      obtain ⟨-, -, failed⟩ := cases
      rw [Store.client_commit, (steady _ still).commit] at failed
      cases failed
    | declined result =>
      obtain ⟨-, declined, -⟩ := cases
      cases declined
    | rolledBack e =>
      obtain ⟨-, undone⟩ := cases
      cases undone
      exact ⟨frame _ _ _ still, rfl, delivered⟩
    | rollbackFailed e => cases cases

/-- An attempt at a batch on a healthy store is not refused and leaves the store healthy. -/
theorem Batch.healthy_attempt {work : UnitOfWork σ τ} {P : Delivery τ → Prop} (meets : work.Meets P)
    {number size : Nat} {p p' : Progress σ τ} {store store' : Store}
    {a : Attempt (List (Delivery τ)) Unit} (healthy : store.Healthy)
    (step : Runner.attempt (body work number size) (fun _ => true) p store = (a, p', store')) :
    store'.Healthy ∧ a.refused = false ∧ ∀ d ∈ a.deliveries, P d :=
  steady_attempt (fun _ => Store.Healthy.steady)
    (fun _ _ _ kept => ⟨kept.online, kept.accepting, kept.faultless⟩) meets healthy step

/-- Nothing is refused in an execution over a healthy store. -/
theorem Executor.healthy_execute {ex : Executor σ τ} {P : Delivery τ → Prop} (meets : ex.work.Meets P)
    (state : σ) {store : Store} (healthy : store.Healthy) :
    (∀ a ∈ (ex.execute state store).attempts, a.refused = false) ∧
      ∀ d ∈ (ex.execute state store).deliveries, P d := by
  have each : ∀ a ∈ (ex.execute state store).attempts, a.refused = false ∧ ∀ d ∈ a.deliveries, P d :=
    (kept_rounds (I := Store.Healthy) (fun healthy step => Batch.healthy_attempt meets healthy step)
      healthy).2
  refine ⟨fun a mem => (each a mem).1, fun d mem => ?_⟩
  obtain ⟨b, mem, delivered⟩ := List.mem_flatMap.mp mem
  obtain ⟨a, made, delivered⟩ := List.mem_flatMap.mp delivered
  exact (each a (List.mem_flatMap_of_mem mem made)).2 d delivered

end GraphBatch
