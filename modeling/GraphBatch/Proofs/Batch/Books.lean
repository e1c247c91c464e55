import GraphBatch.Proofs.Batch.Attempts
import GraphBatch.Proofs.Runner.Books

/-!
# What a batch leaves in the journaling store

The deliveries of a batch account for what its body does to the store, so that attempts at the batch
are entered in the books of the store by the statements of their deliveries. Of a unit of work that
never leaves its transaction only the statements of committed attempts are journaled.
-/

namespace GraphBatch

variable {σ τ α : Type}

/-! ## Programs that stay inside -/

/-- A program that sends statements only to its transaction, whatever the replies. It may turn the
store's switches. -/
inductive Program.Confined : Program α → Prop
  | done (value : α) : Confined (.done value)
  | inside (st : Statement) {next : Except Failure (List Row) → Program α} :
      (∀ reply, Confined (next reply)) → Confined (.inside st next)
  | switch (sw : Store.Switch) {next : Program α} : Confined next → Confined (.switch sw next)

namespace Program.Confined

theorem outside_run {θ ω : Type} [Client ω θ] {p : Program α} (h : p.Confined) (t : θ) (s : ω) :
    (p.run t s).account.outside = [] := by
  induction h generalizing t s with
  | done value => rfl
  | inside st _ ih =>
    unfold run
    split
    · exact ih _ _ _
    · exact ih _ _ _
  | switch sw _ ih => exact ih t _

end Program.Confined

/-- A unit of work that never leaves its transaction. -/
def UnitOfWork.Confined (work : UnitOfWork σ τ) : Prop :=
  ∀ invocation state, (work invocation state).Confined

theorem Delivery.Of.outside_eq_nil {θ ω : Type} [Client ω θ] {work : UnitOfWork σ τ} {d : Delivery τ}
    (made : d.Of ω work) (confined : work.Confined) : d.account.outside = [] := by
  obtain ⟨state, t, store, -, account⟩ := made
  rw [account]
  exact (confined d.invocation state).outside_run t store

/-! ## Deliveries as accounts -/

namespace Batch

/-- The statements that succeeded in the transaction. -/
def inside (record : List (Delivery τ)) : List Statement :=
  record.flatMap (·.account.inside)

/-- The statements that succeeded outside the transaction. -/
def outside (record : List (Delivery τ)) : List Statement :=
  record.flatMap (·.account.outside)

section Draw

variable (work : UnitOfWork σ τ) (number left : Nat) (first? : Option Failure) (p : Progress σ τ)
  (t : Transaction) (store : Store)

theorem pending_draw : (draw work number left first? p t store).transaction.pending =
    t.pending ++ inside (draw work number left first? p t store).record := by
  fun_induction draw work number left first? p t store with
  | case1 first? p t store => exact (List.append_nil _).symm
  | case2 left first? p t store cursor drawn => exact (List.append_nil _).symm
  | case3 left first? p t store item cursor drawn call e failed =>
    rw [inside, List.flatMap_singleton]
    exact Program.pending_run _ t store
  | case4 left first? p t store item cursor drawn call going rest ih =>
    have first : call.transaction.pending = t.pending ++ call.record.account.inside :=
      Program.pending_run _ t store
    rw [ih, first, List.append_assoc]
    rfl

theorem journal_draw : (draw work number left first? p t store).store.journal =
    store.journal ++ outside (draw work number left first? p t store).record := by
  fun_induction draw work number left first? p t store with
  | case1 first? p t store => exact (List.append_nil _).symm
  | case2 left first? p t store cursor drawn => exact (List.append_nil _).symm
  | case3 left first? p t store item cursor drawn call e failed =>
    rw [outside, List.flatMap_singleton]
    exact Program.journal_run _ t store
  | case4 left first? p t store item cursor drawn call going rest ih =>
    have first : call.store.journal = store.journal ++ call.record.account.outside :=
      Program.journal_run _ t store
    rw [ih, first, List.append_assoc]
    rfl

theorem log_draw : (draw work number left first? p t store).store.log = store.log := by
  fun_induction draw work number left first? p t store with
  | case1 first? p t store => rfl
  | case2 left first? p t store cursor drawn => rfl
  | case3 left first? p t store item cursor drawn call e failed => exact Program.log_run _ t store
  | case4 left first? p t store item cursor drawn call going rest ih =>
    exact ih.trans (Program.log_run _ t store)

end Draw

/-- The record of a batch accounts for its body. -/
theorem accounted_body (work : UnitOfWork σ τ) (number size : Nat) :
    Body.Accounted (body work number size) inside outside where
  pending p t store := pending_draw work number size none { p with attempted := 0 } t store
  journal p t store := journal_draw work number size none { p with attempted := 0 } t store
  log p t store := log_draw work number size none { p with attempted := 0 } t store

end Batch

/-- An attempt journals what its deliveries sent outside, and what they sent inside if it kept them. -/
theorem Attempt.journaled_eq (a : Attempt (List (Delivery τ)) Unit) :
    a.journaled Batch.inside Batch.outside = Batch.outside a.deliveries ++ Batch.inside a.kept := by
  unfold journaled deliveries kept
  cases a.record? <;> cases a.committed? <;> rfl

end GraphBatch
