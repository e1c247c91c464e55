import GraphBatch.Proofs.Batch.Attempts
import GraphBatch.Proofs.Runner.Books

/-!
# Batches in calm conditions

Conditions are calm for an attempt when the client refuses neither its beginning nor its commit and
the unit of work meets no store failure. On the journaling store such an attempt takes as many items
as a batch holds, or all that are left, and it commits exactly if the unit of work succeeded for each
of them; it is never made again.
-/

namespace GraphBatch

variable {θ ω κ ρ σ τ : Type} [Client ω θ]

/-- The client refused to begin the attempt's transaction or to commit it. -/
def Attempt.refused : Attempt κ ρ → Bool
  | unbegun _ => true
  | ended _ (.commitFailed _ _) => true
  | _ => false

namespace Batch

/-- The unit of work succeeded for each of these items. -/
def clean (record : List (Delivery τ)) : Bool :=
  record.all (·.result.isOk)

theorem clean_iff {record : List (Delivery τ)} :
    clean record = true ↔ ∀ d ∈ record, d.result = .ok () := by
  have isOk_iff : ∀ d : Delivery τ, d.result.isOk = true ↔ d.result = .ok () := by
    intro d
    cases d.result <;> simp [Except.isOk, Except.toBool]
  simp [clean, isOk_iff]

theorem not_isStore_of_failure? {record : List (Delivery τ)} {e : Failure}
    (calm : ∀ d ∈ record, d.storeFailure? = none) (h : failure? record = some e) :
    e.isStore = false := by
  obtain ⟨d, mem, failed⟩ := exists_of_failure? h
  refine Bool.eq_false_iff.mpr fun store => ?_
  have stored := Delivery.storeFailure?_eq_some.mpr ⟨failed, store⟩
  rw [calm d mem] at stored
  cases stored

/-- Without store failures a call of the body takes the full number of items, or all that are left. -/
theorem take_draw (work : UnitOfWork σ τ) (number left : Nat) (first? : Option Failure)
    (p : Progress σ τ) (t : θ) (store : ω) {n : Nat} (within : p.cursor.Within n)
    (calm : ∀ d ∈ (draw work number left first? p t store).record, d.storeFailure? = none) :
    (draw work number left first? p t store).record.map (·.invocation.item) =
        (p.cursor.left n).take left ∧
      (draw work number left first? p t store).state.cursor.left n = (p.cursor.left n).drop left := by
  have split := (draws_draw work number left first? p t store).left within
  have bound := length_record_draw work number left first? p t store
  rw [split]
  rcases complete_draw work number left first? p t store within with ⟨d, mem, failed⟩ | full | ended
  · rw [calm d mem] at failed
    cases failed
  · rw [List.take_left' (by rw [List.length_map, full]), List.drop_left' (by rw [List.length_map, full])]
    exact ⟨rfl, rfl⟩
  · rw [Cursor.left_of_ended ended, List.append_nil, List.take_of_length_le (by rwa [List.length_map]),
      List.drop_of_length_le (by rwa [List.length_map])]
    exact ⟨rfl, rfl⟩

variable {work : UnitOfWork σ τ} {number size : Nat} {p p' : Progress σ τ}

/-- Without store failures there is no reason to try again. -/
theorem not_transient_attempt {accepts : Unit → Bool} {store store' : ω}
    {a : Attempt (List (Delivery τ)) Unit}
    (step : Runner.attempt (body work number size) accepts p store = (a, p', store'))
    (calm : ∀ d ∈ a.deliveries, d.storeFailure? = none) : ¬ a.Transient := by
  rintro ⟨record, e, rfl, transient⟩
  obtain ⟨t, begun, -, rfl, -, concluded⟩ := Runner.attempt_ended step
  obtain ⟨failed, -⟩ := Runner.conclude_cases concluded
  rw [result_body work number size p t begun] at failed
  have ordinary := not_isStore_of_failure? calm (verdict_eq_error.mp failed)
  rw [Failure.isStore, transient, Bool.or_true] at ordinary
  cases ordinary

/-- In calm conditions an attempt ends in one of two ways, by what the unit of work made of its items. -/
theorem ending_of_calm {store store' : Store} {record : List (Delivery τ)} {ending : Ending Unit}
    (step : Runner.attempt (body work number size) (fun _ => true) p store =
      (.ended record ending, p', store'))
    (accepted : (Attempt.ended record ending).refused = false) :
    (clean record = true ∧ ending = .committed ()) ∨
      (clean record = false ∧ ∃ e, failure? record = some e ∧ ending = .rolledBack e) := by
  obtain ⟨t, begun, -, recorded, -, concluded⟩ := Runner.attempt_ended step
  have cases := Runner.conclude_cases concluded
  rw [result_body work number size p t begun, recorded] at cases
  cases ending with
  | committed result =>
    obtain ⟨ok, -, -⟩ := cases
    exact .inl ⟨clean_iff.mpr (failure?_eq_none.mp (verdict_eq_ok.mp ok)), rfl⟩
  | commitFailed result e => cases accepted
  | declined result =>
    obtain ⟨-, declined, -⟩ := cases
    cases declined
  | rolledBack e =>
    have failed := verdict_eq_error.mp cases.1
    refine .inr ⟨Bool.eq_false_iff.mpr fun ok => ?_, e, failed, rfl⟩
    rw [failure?_eq_none.mpr (clean_iff.mp ok)] at failed
    cases failed
  | rollbackFailed e => cases cases

/-- What an attempt does in calm conditions. -/
structure Calm (number size n : Nat) (p : Progress σ τ) (a : Attempt (List (Delivery τ)) Unit)
    (p' : Progress σ τ) : Prop where
  begins : a.begins = true
  commits : a.commits = clean a.deliveries
  settles : (Runner.settle .carryOn a).isOk = true
  items : a.deliveries.map (·.invocation.item) = (p.cursor.left n).take size
  left : p'.cursor.left n = (p.cursor.left n).drop size
  attempted : p'.attempted = a.deliveries.length
  positions : ∀ (i : Nat) {d : Delivery τ}, a.deliveries[i]? = some d →
    d.invocation.batch = number ∧ d.invocation.step = i + 1

theorem calm_attempt {store store' : Store} {a : Attempt (List (Delivery τ)) Unit} {n : Nat}
    (step : Runner.attempt (body work number size) (fun _ => true) p store = (a, p', store'))
    (within : p.cursor.Within n) (accepted : a.refused = false)
    (calm : ∀ d ∈ a.deliveries, d.storeFailure? = none) : Calm number size n p a p' := by
  cases a with
  | unbegun e => cases accepted
  | ended record ending =>
    have endings := ending_of_calm step accepted
    obtain ⟨t, begun, -, rfl, rfl, -⟩ := Runner.attempt_ended step
    obtain ⟨items, left⟩ := take_draw work number size none { p with attempted := 0 } t begun within calm
    refine ⟨rfl, ?_, ?_, items, left, attempted_body work number size p t begun, ?_⟩
    · rcases endings with ⟨ok, rfl⟩ | ⟨failed, e, -, rfl⟩
      · exact ok.symm
      · exact failed.symm
    · rcases endings with ⟨-, rfl⟩ | ⟨-, e, failed, rfl⟩
      · rfl
      · have ordinary := not_isStore_of_failure? calm failed
        rw [Failure.isStore, Bool.or_eq_false_iff] at ordinary
        simp [Runner.settle, Strategy.tolerates, ordinary.1, Except.isOk, Except.toBool]
    · intro i d at_i
      obtain ⟨batch, step, -⟩ :=
        invocation_draw work number size none { p with attempted := 0 } t begun i at_i
      exact ⟨batch, by rw [step, Nat.zero_add]⟩

end Batch

end GraphBatch
