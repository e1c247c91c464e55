import GraphBatch.Proofs.Batch.Attempts
import GraphBatch.Proofs.Runner.Books

/-!
# How an attempt breaks down

An attempt at a batch breaks its execution down with an infrastructure failure. On the journaling store
there are three ways (`Attempt.Breaks`): the transaction does not begin, it is not committed, or the unit of
work returns the failure in its last call. The runner returns only failures of these kinds
(`Batch.breaks_attempt`), and it returns each of the third kind (`Batch.breaks_of_delivery`).
-/

namespace GraphBatch

variable {σ τ : Type}

/-- Carrying on returns the infrastructure failures of a body, and no others. -/
theorem Runner.settle_carryOn_eq_error {κ ρ : Type} {record : κ} {e e' : Failure} :
    settle .carryOn (.ended record (.rolledBack e') : Attempt κ ρ) = .error e ↔
      e' = e ∧ e'.isInfrastructure = true := by
  cases infrastructure : e'.isInfrastructure <;> simp [settle, Strategy.tolerates, infrastructure]

namespace Attempt

/-- The attempt ends the execution with a failure. -/
inductive Breaks : Attempt (List (Delivery τ)) Unit → Failure → Prop
  /-- The transaction did not begin. -/
  | begin : Breaks (.unbegun .storeOffline) .storeOffline
  /-- The transaction was not committed. -/
  | commit (record : List (Delivery τ)) :
      Breaks (.ended record (.commitFailed () .commitRejected)) .commitRejected
  /-- The last call of the unit of work returned the failure. -/
  | work (earlier : List (Delivery τ)) {last : Delivery τ} {e : Failure} :
      last.result = .error e → e.isInfrastructure = true →
      Breaks (.ended (earlier ++ [last]) (.rolledBack e)) e

variable {a : Attempt (List (Delivery τ)) Unit} {e : Failure}

theorem Breaks.isInfrastructure (h : a.Breaks e) : e.isInfrastructure = true := by
  cases h with
  | begin => rfl
  | commit record => rfl
  | work earlier failed infrastructure => exact infrastructure

/-- What breaks an execution down is not tried again. -/
theorem Breaks.not_transient (h : a.Breaks e) : ¬ a.Transient := by
  rintro ⟨record, e', rfl, transient⟩
  cases h with
  | work earlier failed infrastructure =>
    rw [Failure.not_isTransient_of_isInfrastructure infrastructure] at transient
    cases transient

/-- The runner returns a failure that breaks an execution down. -/
theorem Breaks.settle (h : a.Breaks e) : Runner.settle .carryOn a = .error e := by
  cases h with
  | begin => rfl
  | commit record => rfl
  | work earlier failed infrastructure => exact Runner.settle_carryOn_eq_error.mpr ⟨rfl, infrastructure⟩

end Attempt

namespace Batch

variable {work : UnitOfWork σ τ} {number size : Nat} {accepts : Unit → Bool} {p p' : Progress σ τ}
  {store store' : Store} {a : Attempt (List (Delivery τ)) Unit} {e : Failure}

theorem isStore_of_isInfrastructure (infrastructure : e.isInfrastructure = true) : e.isStore = true := by
  rw [Failure.isStore, infrastructure]
  rfl

/-- When the unit of work returns an infrastructure failure, this was its last call in the attempt, which
breaks down. -/
theorem breaks_of_delivery
    (h : Runner.attempt (body work number size) accepts p store = (a, p', store')) {d : Delivery τ}
    (mem : d ∈ a.deliveries) (failed : d.result = .error e) (infrastructure : e.isInfrastructure = true) :
    a.Breaks e := by
  have met : d.storeFailure? = some e :=
    Delivery.storeFailure?_eq_some.mpr ⟨failed, isStore_of_isInfrastructure infrastructure⟩
  cases a with
  | unbegun e => cases mem
  | ended record ending =>
    obtain ⟨t, begun, -, rfl, -, concluded⟩ := Runner.attempt_ended h
    obtain ⟨result, earlier, record⟩ :=
      storeFailure_draw work number size none { p with attempted := 0 } t begun met mem
    change (body work number size p t begun).result = _ at result
    change (body work number size p t begun).record = _ at record
    have cases := Runner.conclude_cases concluded
    cases ending with
    | committed r => cases result.symm.trans cases.1
    | commitFailed r e' => cases result.symm.trans cases.1
    | declined r => cases result.symm.trans cases.1
    | rolledBack e' =>
      cases result.symm.trans cases.1
      rw [record]
      exact .work earlier failed infrastructure
    | rollbackFailed e' => cases cases

/-- The runner returns no failures of an attempt but those that break the execution down. -/
theorem breaks_attempt
    (h : Runner.attempt (body work number size) accepts p store = (a, p', store'))
    (settled : Runner.settle .carryOn a = .error e) : a.Breaks e := by
  cases a with
  | unbegun e' =>
    cases settled
    obtain ⟨rfl, -⟩ := Store.begin_error (Runner.attempt_unbegun h).2
    exact .begin
  | ended record ending =>
    obtain ⟨t, begun, -, recorded, -, concluded⟩ := Runner.attempt_ended h
    have cases := Runner.conclude_cases concluded
    cases ending with
    | committed r => cases settled
    | commitFailed r e' =>
      cases settled
      obtain ⟨rfl, -⟩ := Transaction.commit_error cases.2.2
      exact .commit record
    | declined r => cases settled
    | rolledBack e' =>
      obtain ⟨rfl, infrastructure⟩ := Runner.settle_carryOn_eq_error.mp settled
      have result := cases.1
      rw [result_body, verdict_eq_error, recorded] at result
      obtain ⟨d, mem, failed⟩ := exists_of_failure? result
      exact breaks_of_delivery h mem failed infrastructure
    | rollbackFailed e' => cases cases

/-- On a store that is online an attempt hands an item over unless it finds the end of the input. -/
theorem ended_of_online {n : Nat} (online : store.offline = false) (size_pos : 0 < size)
    (within : p.cursor.Within n)
    (h : Runner.attempt (body work number size) accepts p store = (a, p', store'))
    (nothing : a.deliveries = []) : p'.cursor.ended = true := by
  cases a with
  | unbegun e => cases Runner.begins_of_online online h
  | ended record ending =>
    obtain ⟨t, begun, -, rfl, rfl, -⟩ := Runner.attempt_ended h
    exact ended_body work number size_pos t begun within nothing

end Batch

end GraphBatch
