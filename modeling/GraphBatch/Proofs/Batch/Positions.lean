import Mathlib.Data.List.Chain
import GraphBatch.Proofs.Batch.Attempts

/-!
# Positions in a batch

The unit of work is told where it stands: the number of its batch, and the step in the current attempt.
`Delivery.Follows` says what the position of an item may be after that of the one before it, and
`Delivery.Positions` carries it through series of deliveries. An attempt delivers its items in
consecutive steps (`positions_body`); another one at the same batch is made only after the last of them
has met a transient failure (`Positions.retry`).
-/

namespace GraphBatch

variable {θ ω σ τ : Type} [Client ω θ]

/-- Where an item stands: its batch and its step in the current attempt at it. -/
def Invocation.position (i : Invocation τ) : Nat × Nat :=
  (i.batch, i.step)

namespace Delivery

/-- Nothing else is handed over in the attempt: the batch is full, or the client has failed. -/
def Closes (size : Nat) (d : Delivery τ) : Prop :=
  d.invocation.step = size ∨ ∃ e, d.result = .error e ∧ e.isStore = true

/-- Where an item may stand when the one handed over before it is `d`. -/
inductive Follows (size : Nat) (d d' : Delivery τ) : Prop
  /-- The next item of the attempt, after a success or an ordinary failure. -/
  | step : d.invocation.step < size → (∀ e, d.result = .error e → e.isStore = false) →
      d'.invocation.position = (d.invocation.batch, d.invocation.step + 1) → Follows size d d'
  /-- The first item of another attempt at the batch, after a transient failure. -/
  | retry {e : Failure} : d.result = .error e → e.isTransient = true →
      d'.invocation.position = (d.invocation.batch, 1) → Follows size d d'
  /-- The first item of the next batch, after a full one or a store failure. -/
  | batch : d.Closes size → d'.invocation.position = (d.invocation.batch + 1, 1) → Follows size d d'

/-- Deliveries in order, from the first item of batch `first` to one of batch `last`; they stop in the
midst of an attempt only where the input has `ended`. -/
structure Positions (size first last : Nat) (ended : Bool) (ds : List (Delivery τ)) : Prop where
  chain : ds.IsChain (Follows size)
  head : ∀ d ∈ ds.head?, d.invocation.position = (first, 1)
  getLast : ∀ d ∈ ds.getLast?, d.invocation.batch = last ∧ (d.Closes size ∨ ended = true)

namespace Positions

variable {size first middle last : Nat} {ended ended' : Bool} {ds ds' : List (Delivery τ)}

theorem nil (size first last : Nat) (ended : Bool) :
    Positions size first last ended ([] : List (Delivery τ)) where
  chain := .nil
  head := by simp
  getLast := by simp

/-- Series of deliveries are joined at the last of the one and the first of the other. -/
theorem join (h : Positions size first middle ended ds) {first' : Nat}
    (h' : Positions size first' last ended' ds')
    (link : ∀ d ∈ ds.getLast?, ∀ d' ∈ ds'.head?, d.Follows size d')
    (left : ds = [] → first' = first)
    (right : ds' = [] → middle = last ∧ ∀ d ∈ ds.getLast?, d.Closes size ∨ ended' = true) :
    Positions size first last ended' (ds ++ ds') where
  chain := List.isChain_append.mpr ⟨h.chain, h'.chain, link⟩
  head := by
    cases ds with
    | nil =>
      cases left rfl
      exact h'.head
    | cons d ds => exact h.head
  getLast := by
    intro d mem
    rw [List.getLast?_append] at mem
    rcases Option.or_eq_some_iff.mp mem with later | ⟨nothing, earlier⟩
    · exact h'.getLast d later
    · obtain ⟨rfl, stops⟩ := right (List.getLast?_eq_none_iff.mp nothing)
      exact ⟨(h.getLast d earlier).1, stops d earlier⟩

/-- After an attempt of which the last item met a transient failure the batch starts again. -/
theorem retry (h : Positions size first first ended ds)
    (transient : ∃ d ∈ ds.getLast?, ∃ e, d.result = .error e ∧ e.isTransient = true)
    (h' : Positions size first first ended' ds') :
    Positions size first first ended' (ds ++ ds') := by
  obtain ⟨d, met, e, failed, transient⟩ := transient
  have only : ∀ d₁ ∈ ds.getLast?, d₁ = d := fun d₁ mem => Option.some.inj (mem.symm.trans met)
  refine h.join h' ?_ (fun _ => rfl) fun _ => ⟨rfl, ?_⟩
  · intro d₁ mem d' next
    obtain rfl := only d₁ mem
    exact .retry failed transient (by rw [h'.head d' next, (h.getLast d₁ mem).1])
  · intro d₁ mem
    obtain rfl := only d₁ mem
    exact .inl (.inr ⟨e, failed, by rw [Failure.isStore, transient, Bool.or_true]⟩)

end Positions

end Delivery

namespace Batch

variable {work : UnitOfWork σ τ} {number size : Nat} {accepts : Unit → Bool}
  {p p' : Progress σ τ} {store store' : ω}

/-! ## The body -/

theorem position_body (t : θ) (i : Nat) {d : Delivery τ}
    (at_i : (body work number size p t store).record[i]? = some d) :
    d.invocation.position = (number, i + 1) := by
  obtain ⟨batch, step, -⟩ :=
    invocation_draw work number size none { p with attempted := 0 } t store i at_i
  rw [Invocation.position, batch, step]
  simp

/-- A store failure is met by the last item of a call. -/
theorem last_body_of_isStore {t : θ} {d : Delivery τ} {e : Failure}
    (mem : d ∈ (body work number size p t store).record) (failed : d.result = .error e)
    (isStore : e.isStore = true) : ∃ ds, (body work number size p t store).record = ds ++ [d] :=
  (storeFailure_draw work number size none { p with attempted := 0 } t store
    (Delivery.storeFailure?_eq_some.mpr ⟨failed, isStore⟩) mem).2

/-- So a call that fails with a transient failure has met it at its last item. -/
theorem getLast_body_of_transient {t : θ} {e : Failure}
    (failed : (body work number size p t store).result = .error e) (transient : e.isTransient = true) :
    ∃ d ∈ (body work number size p t store).record.getLast?,
      ∃ e, d.result = .error e ∧ e.isTransient = true := by
  rw [result_body, verdict_eq_error] at failed
  obtain ⟨d, mem, failed⟩ := exists_of_failure? failed
  obtain ⟨ds, record⟩ :=
    last_body_of_isStore mem failed (by rw [Failure.isStore, transient, Bool.or_true])
  refine ⟨d, ?_, e, failed, transient⟩
  rw [record, List.getLast?_concat]
  rfl

/-- The last item of a call fills the batch, meets a store failure or is followed by the end of the
input. -/
theorem closes_body {t : θ} {n : Nat} (within : p.cursor.Within n) {d : Delivery τ}
    (last : d ∈ (body work number size p t store).record.getLast?) :
    d.Closes size ∨ (body work number size p t store).state.cursor.ended = true := by
  rcases complete_draw work number size none { p with attempted := 0 } t store within with
    ⟨d₁, mem, failed⟩ | full | ended
  · obtain ⟨e, failed⟩ := Option.isSome_iff_exists.mp failed
    obtain ⟨failed, isStore⟩ := Delivery.storeFailure?_eq_some.mp failed
    obtain ⟨ds, record⟩ := last_body_of_isStore mem failed isStore
    rw [record, List.getLast?_concat] at last
    cases last
    exact .inl (.inr ⟨e, failed, isStore⟩)
  · change (body work number size p t store).record.length = size at full
    rw [List.getLast?_eq_getElem?] at last
    have place := position_body t _ last
    have some := (List.getElem?_eq_some_iff.mp last).1
    have step : d.invocation.step = size := by
      rw [← full, (Prod.mk.inj place).2]
      omega
    exact .inl (.inl step)
  · exact .inr ended

/-- A call of the body hands its items over in consecutive steps. -/
theorem positions_body (work : UnitOfWork σ τ) (number size : Nat) (p : Progress σ τ) (t : θ)
    (store : ω) {n : Nat} (within : p.cursor.Within n) :
    Delivery.Positions size number number (body work number size p t store).state.cursor.ended
      (body work number size p t store).record where
  chain := by
    refine List.isChain_iff_getElem.mpr fun i lt => ?_
    have here := position_body t i (List.getElem?_eq_getElem (Nat.lt_of_succ_lt lt))
    have there := position_body t (i + 1) (List.getElem?_eq_getElem lt)
    obtain ⟨batch, step⟩ := Prod.mk.inj here
    have bound : (body work number size p t store).record.length ≤ size := length_record_draw ..
    refine .step (by omega) (fun e failed => Bool.eq_false_iff.mpr fun isStore => ?_)
      (by rw [there, batch, step])
    -- an item that met a store failure would be the last one, and its step the length of the record
    obtain ⟨ds, eq⟩ := last_body_of_isStore (List.getElem_mem _) failed isStore
    have last := position_body t ds.length (by rw [eq, List.getElem?_concat_length])
    have steps := (Prod.mk.inj (last.symm.trans here)).2
    have length := congrArg List.length eq
    rw [List.length_append, List.length_singleton] at length
    omega
  head := by
    intro d mem
    rw [List.head?_eq_getElem?] at mem
    exact position_body t 0 mem
  getLast := by
    intro d mem
    refine ⟨?_, closes_body within mem⟩
    rw [List.getLast?_eq_getElem?] at mem
    exact (Prod.mk.inj (position_body t _ mem)).1

/-! ## Attempts -/

theorem positions_attempt {n : Nat} (within : p.cursor.Within n)
    {a : Attempt (List (Delivery τ)) Unit}
    (h : Runner.attempt (body work number size) accepts p store = (a, p', store')) :
    Delivery.Positions size number number p'.cursor.ended a.deliveries := by
  cases a with
  | unbegun e => exact .nil ..
  | ended record ending =>
    obtain ⟨t, begun, -, rfl, rfl, -⟩ := Runner.attempt_ended h
    exact positions_body work number size p t begun within

theorem getLast_attempt_of_transient {a : Attempt (List (Delivery τ)) Unit}
    (h : Runner.attempt (body work number size) accepts p store = (a, p', store'))
    (transient : a.Transient) :
    ∃ d ∈ a.deliveries.getLast?, ∃ e, d.result = .error e ∧ e.isTransient = true := by
  obtain ⟨record, e, rfl, transient⟩ := transient
  obtain ⟨t, begun, -, rfl, -, concluded⟩ := Runner.attempt_ended h
  exact getLast_body_of_transient (Runner.conclude_cases concluded).1 transient

/-- So do the attempts at a batch, each of which starts again at its first step. -/
theorem positions_tries {before : List (Attempt (List (Delivery τ)) Unit)}
    {last : Attempt (List (Delivery τ)) Unit} {n : Nat} (within : p.cursor.Within n)
    (h : Runner.Tries (body work number size) accepts p store (before ++ [last]) p' store')
    (transient : ∀ a ∈ before, a.Transient) :
    Delivery.Positions size number number p'.cursor.ended
      ((before ++ [last]).flatMap Attempt.deliveries) := by
  induction before generalizing p store with
  | nil =>
    obtain ⟨p₁, store₁, step, rest⟩ := h.split_first
    cases rest
    rw [List.nil_append, List.flatMap_singleton]
    exact positions_attempt within step
  | cons a before ih =>
    obtain ⟨p₁, store₁, step, rest⟩ := h.split_first
    exact (positions_attempt within step).retry
      (getLast_attempt_of_transient step (transient a List.mem_cons_self))
      (ih ((moves_attempt step).draws.within within) rest
        fun b mem => transient b (List.mem_cons_of_mem a mem))

theorem length_deliveries_tries {as : List (Attempt (List (Delivery τ)) Unit)}
    (h : Runner.Tries (body work number size) accepts p store as p' store') :
    (as.flatMap Attempt.deliveries).length ≤ size * as.length := by
  induction h with
  | nil p store => exact Nat.le_refl 0
  | cons step _ ih =>
    rw [List.flatMap_cons, List.length_append, List.length_cons, Nat.mul_succ, Nat.add_comm]
    exact Nat.add_le_add ih (length_deliveries_attempt step)

end Batch

end GraphBatch
