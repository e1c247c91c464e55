import GraphBatch.Batch
import GraphBatch.Proofs.Cursor.Drawing

/-!
# What a batch draws

A call of the body of a batch leaves a record of its deliveries. The lemmas here say everything that
later modules need of such a call in terms of that record: the items are the ones drawn from the
cursor, the counters have moved by its length, the positions count up from where the batch stood, and
the result is a function of the results in it.
-/

namespace GraphBatch

variable {θ ω σ τ : Type} [Client ω θ]

namespace Delivery

@[simp] theorem failure?_eq_none {d : Delivery τ} : d.failure? = none ↔ d.result = .ok () := by
  unfold failure?
  split
  · rename_i ok
    simp [ok]
  · rename_i failed
    simp [failed]

@[simp] theorem failure?_eq_some {d : Delivery τ} {e : Failure} :
    d.failure? = some e ↔ d.result = .error e := by
  unfold failure?
  split
  · rename_i ok
    simp [ok]
  · rename_i failed
    simp [failed]

theorem storeFailure?_eq_some {d : Delivery τ} {e : Failure} :
    d.storeFailure? = some e ↔ d.result = .error e ∧ e.isStore = true := by
  simp [storeFailure?, Option.filter_eq_some_iff]

theorem storeFailure?_eq_none {d : Delivery τ} :
    d.storeFailure? = none ↔ ∀ e, d.result = .error e → e.isStore = false := by
  simp [storeFailure?, Option.filter_eq_none_iff]

/-- The delivery is a call of the unit of work, from some state, in some transaction of a client. -/
def Of (ω : Type) {θ : Type} [Client ω θ] (work : UnitOfWork σ τ) (d : Delivery τ) : Prop :=
  ∃ (state : σ) (t : θ) (store : ω),
    d.result = ((work d.invocation state).run t store).value.1 ∧
      d.account = ((work d.invocation state).run t store).account

end Delivery

/-- A unit of work that keeps the calls made of it: `calls` reads them off its state. -/
def UnitOfWork.Keeps (ω : Type) {θ : Type} [Client ω θ] (work : UnitOfWork σ τ)
    (calls : σ → List (Invocation τ)) : Prop :=
  ∀ invocation state (t : θ) (store : ω),
    calls ((work invocation state).run t store).value.2 = calls state ++ [invocation]

namespace Batch

/-- The failure by which deliveries fail their batch: a store failure, or else the first one. -/
def failure? (record : List (Delivery τ)) : Option Failure :=
  (record.findSome? Delivery.storeFailure?).or (record.findSome? Delivery.failure?)

theorem failure?_eq_none {record : List (Delivery τ)} :
    failure? record = none ↔ ∀ d ∈ record, d.result = .ok () := by
  refine ⟨fun none d mem => ?_, fun ok => ?_⟩
  · have first : record.findSome? Delivery.failure? = .none := by
      rw [failure?, Option.or_eq_none_iff] at none
      exact none.2
    exact Delivery.failure?_eq_none.mp (List.findSome?_eq_none_iff.mp first d mem)
  · refine Option.or_eq_none_iff.mpr ⟨?_, ?_⟩ <;> refine List.findSome?_eq_none_iff.mpr fun d mem => ?_
    · rw [Delivery.storeFailure?, Delivery.failure?_eq_none.mpr (ok d mem)]
      rfl
    · exact Delivery.failure?_eq_none.mpr (ok d mem)

/-- What fails a batch is the failure of one of its items. -/
theorem exists_of_failure? {record : List (Delivery τ)} {e : Failure} (h : failure? record = some e) :
    ∃ d ∈ record, d.result = .error e := by
  rcases Option.or_eq_some_iff.mp h with stored | ⟨-, ordinary⟩
  · obtain ⟨d, mem, failed⟩ := List.exists_of_findSome?_eq_some stored
    exact ⟨d, mem, (Delivery.storeFailure?_eq_some.mp failed).1⟩
  · obtain ⟨d, mem, failed⟩ := List.exists_of_findSome?_eq_some ordinary
    exact ⟨d, mem, Delivery.failure?_eq_some.mp failed⟩

@[simp] theorem verdict_eq_ok {failure? : Option Failure} :
    verdict failure? = .ok () ↔ failure? = none := by
  cases failure? <;> simp [verdict]

@[simp] theorem verdict_eq_error {failure? : Option Failure} {e : Failure} :
    verdict failure? = .error e ↔ failure? = some e := by
  cases failure? <;> simp [verdict]

variable (work : UnitOfWork σ τ) (number : Nat)

section Draw

variable (left : Nat) (first? : Option Failure) (p : Progress σ τ) (t : θ) (store : ω)

theorem draws_draw : p.cursor.Draws
    ((draw work number left first? p t store).record.map (·.invocation.item))
    (draw work number left first? p t store).state.cursor := by
  fun_induction draw work number left first? p t store with
  | case1 first? p t store => exact .nil _
  | case2 left first? p t store cursor drawn => exact .ending drawn (.nil _)
  | case3 left first? p t store item cursor drawn call e failed => exact .item drawn (.nil _)
  | case4 left first? p t store item cursor drawn call going rest ih => exact .item drawn ih

theorem length_record_draw : (draw work number left first? p t store).record.length ≤ left := by
  fun_induction draw work number left first? p t store with
  | case1 first? p t store => exact Nat.le_refl 0
  | case2 left first? p t store cursor drawn => exact Nat.zero_le _
  | case3 left first? p t store item cursor drawn call e failed => exact Nat.succ_pos left
  | case4 left first? p t store item cursor drawn call going rest ih => exact Nat.succ_le_succ ih

/-- Every delivery counts once in the total, in the current attempt and over all attempts, and in
nothing else. -/
theorem counters_draw :
    let o := draw work number left first? p t store
    o.state.stats = { p.stats with totalSteps := p.stats.totalSteps + o.record.length } ∧
      o.state.attempted = p.attempted + o.record.length ∧
      o.state.drawn = p.drawn + o.record.length := by
  fun_induction draw work number left first? p t store with
  | case1 first? p t store => exact ⟨rfl, rfl, rfl⟩
  | case2 left first? p t store cursor drawn => exact ⟨rfl, rfl, rfl⟩
  | case3 left first? p t store item cursor drawn call e failed => exact ⟨rfl, rfl, rfl⟩
  | case4 left first? p t store item cursor drawn call going rest ih =>
    obtain ⟨stats, attempted, drawn⟩ := ih
    refine ⟨?_, ?_, ?_⟩
    · rw [stats]
      simp [rest, call, handOver, Nat.add_assoc, Nat.add_comm 1]
    · rw [attempted]
      simp [rest, call, handOver, Nat.add_assoc, Nat.add_comm 1]
    · rw [drawn]
      simp [rest, call, handOver, Nat.add_assoc, Nat.add_comm 1]

/-- The unit of work is told the batch's number, the step that its item is in the attempt, and the
counters with all steps up to its own. -/
theorem invocation_draw (i : Nat) {d : Delivery τ}
    (at_i : (draw work number left first? p t store).record[i]? = some d) :
    d.invocation.batch = number ∧ d.invocation.step = p.attempted + i + 1 ∧
      d.invocation.stats = { p.stats with totalSteps := p.stats.totalSteps + i + 1 } := by
  fun_induction draw work number left first? p t store generalizing i with
  | case1 first? p t store => simp at at_i
  | case2 left first? p t store cursor drawn => simp at at_i
  | case3 left first? p t store item cursor drawn call e failed =>
    cases i with
    | zero =>
      cases at_i
      exact ⟨rfl, rfl, rfl⟩
    | succ i => simp at at_i
  | case4 left first? p t store item cursor drawn call going rest ih =>
    cases i with
    | zero =>
      cases at_i
      exact ⟨rfl, rfl, rfl⟩
    | succ i =>
      obtain ⟨batch, step, stats⟩ := ih i at_i
      refine ⟨batch, ?_, ?_⟩
      · rw [step]
        simp only [call, handOver]
        omega
      · rw [stats]
        simp only [call, handOver, Nat.add_assoc, Nat.add_comm 1]

/-- What each call of the unit of work keeps of the open transaction and the client is kept in the whole,
and what holds of each call holds of the deliveries. -/
theorem kept_draw {I : θ → ω → Prop} {P : Delivery τ → Prop}
    (each : ∀ (invocation : Invocation τ) (state : σ) (t : θ) (store : ω), I t store →
      I ((work invocation state).run t store).transaction ((work invocation state).run t store).store ∧
        P ⟨invocation, ((work invocation state).run t store).value.1,
          ((work invocation state).run t store).account⟩)
    (start : I t store) :
    let o := draw work number left first? p t store
    I o.transaction o.store ∧ ∀ d ∈ o.record, P d := by
  fun_induction draw work number left first? p t store with
  | case1 first? p t store => exact ⟨start, by simp⟩
  | case2 left first? p t store cursor drawn => exact ⟨start, by simp⟩
  | case3 left first? p t store item cursor drawn call e failed =>
    obtain ⟨kept, holds⟩ := each call.record.invocation p.state t store start
    exact ⟨kept, List.forall_mem_singleton.mpr holds⟩
  | case4 left first? p t store item cursor drawn call going rest ih =>
    obtain ⟨kept, holds⟩ := each call.record.invocation p.state t store start
    obtain ⟨kept, later⟩ := ih kept
    exact ⟨kept, List.forall_mem_cons.mpr ⟨holds, later⟩⟩

/-- Every delivery is a call of the unit of work. -/
theorem of_draw : ∀ d ∈ (draw work number left first? p t store).record, d.Of ω work :=
  (kept_draw work number left first? p t store (I := fun _ _ => True)
    (fun _ state t store _ => ⟨trivial, state, t, store, rfl, rfl⟩) trivial).2

/-- The calls made of a unit of work are the deliveries, one for each. -/
theorem calls_draw {calls : σ → List (Invocation τ)} (keeps : work.Keeps ω calls) :
    calls (draw work number left first? p t store).state.state =
      calls p.state ++ (draw work number left first? p t store).record.map (·.invocation) := by
  fun_induction draw work number left first? p t store with
  | case1 first? p t store => exact (List.append_nil _).symm
  | case2 left first? p t store cursor drawn => exact (List.append_nil _).symm
  | case3 left first? p t store item cursor drawn call e failed => exact keeps _ p.state t store
  | case4 left first? p t store item cursor drawn call going rest ih =>
    have first : calls call.state.state = calls p.state ++ [call.record.invocation] :=
      keeps _ p.state t store
    rw [ih, first, List.append_assoc]
    rfl

theorem result_draw : (draw work number left first? p t store).result =
    verdict (((draw work number left first? p t store).record.findSome? Delivery.storeFailure?).or
      (first?.or
        ((draw work number left first? p t store).record.findSome? Delivery.failure?))) := by
  fun_induction draw work number left first? p t store with
  | case1 first? p t store => simp
  | case2 left first? p t store cursor drawn => simp
  | case3 left first? p t store item cursor drawn call e failed => simp [failed, verdict]
  | case4 left first? p t store item cursor drawn call going rest ih =>
    have first : (call.record :: rest.record).findSome? Delivery.failure? =
        call.record.failure?.or (rest.record.findSome? Delivery.failure?) := by
      rw [List.findSome?_cons]
      cases call.record.failure? <;> rfl
    have later : (call.record :: rest.record).findSome? Delivery.storeFailure? =
        rest.record.findSome? Delivery.storeFailure? := by
      rw [List.findSome?_cons, going]
    rw [first, later]
    rw [Option.or_assoc] at ih
    exact ih

/-- A store failure is met by the last delivery, and it is the result. -/
theorem storeFailure_draw {d : Delivery τ} {e : Failure} (failed : d.storeFailure? = some e)
    (mem : d ∈ (draw work number left first? p t store).record) :
    (draw work number left first? p t store).result = .error e ∧
      ∃ ds, (draw work number left first? p t store).record = ds ++ [d] := by
  fun_induction draw work number left first? p t store with
  | case1 first? p t store => cases mem
  | case2 left first? p t store cursor drawn => cases mem
  | case3 left first? p t store item cursor drawn call e' met =>
    obtain rfl := List.mem_singleton.mp mem
    cases met.symm.trans failed
    exact ⟨rfl, [], rfl⟩
  | case4 left first? p t store item cursor drawn call going rest ih =>
    rcases List.mem_cons.mp mem with rfl | mem
    · cases going.symm.trans failed
    · obtain ⟨result, ds, record⟩ := ih mem
      exact ⟨result, call.record :: ds, congrArg _ record⟩

/-- Drawing goes on until a store failure, the full number or the end of the input. -/
theorem complete_draw {n : Nat} (within : p.cursor.Within n) :
    let o := draw work number left first? p t store
    (∃ d ∈ o.record, d.storeFailure?.isSome) ∨ o.record.length = left ∨ o.state.cursor.ended := by
  fun_induction draw work number left first? p t store with
  | case1 first? p t store => exact .inr (.inl rfl)
  | case2 left first? p t store cursor drawn =>
    exact .inr (.inr (within.tryAdvance_none drawn).2.1)
  | case3 left first? p t store item cursor drawn call e failed =>
    exact .inl ⟨call.record, List.mem_singleton_self _, by rw [failed]; rfl⟩
  | case4 left first? p t store item cursor drawn call going rest ih =>
    rcases ih (within.tryAdvance_some drawn).1 with ⟨d, mem, failed⟩ | full | ended
    · exact .inl ⟨d, List.mem_cons_of_mem _ mem, failed⟩
    · exact .inr (.inl (congrArg (· + 1) full))
    · exact .inr (.inr ended)

end Draw

end Batch

end GraphBatch
