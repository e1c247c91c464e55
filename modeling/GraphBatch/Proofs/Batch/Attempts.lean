import GraphBatch.Proofs.Batch.Draw
import GraphBatch.Proofs.Runner.Attempts

/-!
# The attempts at a batch

An attempt at a batch delivers the items that its call of the body drew, and keeps them if its
transaction committed. The lemmas carry what is known of one call of the body to attempts and to
series of attempts: however a series goes, what it delivers is what it draws.
-/

namespace GraphBatch

variable {θ ω σ τ : Type} [Client ω θ]

namespace Attempt

/-- The items handed over in the attempt. -/
def deliveries (a : Attempt (List (Delivery τ)) Unit) : List (Delivery τ) :=
  a.record?.getD []

/-- The items handed over in the attempt if its transaction committed, and none else. -/
def kept (a : Attempt (List (Delivery τ)) Unit) : List (Delivery τ) :=
  a.committed?.getD []

/-- The attempt delivered items and did not commit. -/
def loses (a : Attempt (List (Delivery τ)) Unit) : Bool :=
  a.committed?.isNone && !a.deliveries.isEmpty

theorem deliveries_of_committed {a : Attempt (List (Delivery τ)) Unit} {record : List (Delivery τ)}
    (h : a.committed? = some record) : a.deliveries = record := by
  unfold committed? at h
  split at h
  · cases h
    rfl
  · cases h

/-- What an attempt keeps is all that it delivered or nothing. -/
theorem kept_eq (a : Attempt (List (Delivery τ)) Unit) :
    a.kept = if a.loses then [] else a.deliveries := by
  cases h : a.committed? with
  | none =>
    cases delivered : a.deliveries <;> simp [kept, loses, h, delivered]
  | some record =>
    simp [kept, loses, h, deliveries_of_committed h]

theorem mem_deliveries_of_kept {a : Attempt (List (Delivery τ)) Unit} {d : Delivery τ} (mem : d ∈ a.kept) :
    d ∈ a.deliveries := by
  rw [a.kept_eq] at mem
  split at mem
  · cases mem
  · exact mem

end Attempt

/-- Deliveries that lead from one point of a batch to another. -/
structure Progress.Moves (p : Progress σ τ) (ds : List (Delivery τ)) (p' : Progress σ τ) : Prop where
  draws : p.cursor.Draws (ds.map (·.invocation.item)) p'.cursor
  stats : p'.stats = { p.stats with totalSteps := p.stats.totalSteps + ds.length }
  drawn : p'.drawn = p.drawn + ds.length

namespace Progress.Moves

variable {p p' p'' : Progress σ τ} {ds ds' : List (Delivery τ)}

theorem nil (p : Progress σ τ) : p.Moves [] p := ⟨.nil _, rfl, rfl⟩

theorem append (h : p.Moves ds p') (h' : p'.Moves ds' p'') : p.Moves (ds ++ ds') p'' where
  draws := by
    rw [List.map_append]
    exact h.draws.append h'.draws
  stats := by rw [h'.stats, h.stats, List.length_append, Nat.add_assoc]
  drawn := by rw [h'.drawn, h.drawn, List.length_append, Nat.add_assoc]

end Progress.Moves

namespace Batch

variable {work : UnitOfWork σ τ} {number size : Nat} {accepts : Unit → Bool}
  {p p' : Progress σ τ} {store store' : ω}

/-! ## The body -/

theorem moves_body (work : UnitOfWork σ τ) (number size : Nat) (p : Progress σ τ) (t : θ) (store : ω) :
    p.Moves (body work number size p t store).record (body work number size p t store).state where
  draws := draws_draw work number size none { p with attempted := 0 } t store
  stats := (counters_draw work number size none { p with attempted := 0 } t store).1
  drawn := (counters_draw work number size none { p with attempted := 0 } t store).2.2

/-- Each call of the body starts to count its own items anew. -/
theorem attempted_body (work : UnitOfWork σ τ) (number size : Nat) (p : Progress σ τ) (t : θ)
    (store : ω) : (body work number size p t store).state.attempted =
      (body work number size p t store).record.length := by
  have attempted := (counters_draw work number size none { p with attempted := 0 } t store).2.1
  rwa [Nat.zero_add] at attempted

theorem result_body (work : UnitOfWork σ τ) (number size : Nat) (p : Progress σ τ) (t : θ)
    (store : ω) : (body work number size p t store).result =
      verdict (failure? (body work number size p t store).record) := by
  unfold body failure?
  rw [result_draw, Option.none_or]

theorem kept_body {I : θ → ω → Prop} {P : Delivery τ → Prop}
    (each : ∀ (invocation : Invocation τ) (state : σ) (t : θ) (store : ω), I t store →
      I ((work invocation state).run t store).transaction ((work invocation state).run t store).store ∧
        P ⟨invocation, ((work invocation state).run t store).value.1,
          ((work invocation state).run t store).account⟩)
    {t : θ} (start : I t store) :
    I (body work number size p t store).transaction (body work number size p t store).store ∧
      ∀ d ∈ (body work number size p t store).record, P d :=
  kept_draw work number size none { p with attempted := 0 } t store each start

/-- A call of the body that delivers nothing has found the end of the input. -/
theorem ended_body (work : UnitOfWork σ τ) (number : Nat) (size_pos : 0 < size) {p : Progress σ τ} (t : θ)
    (store : ω) {n : Nat} (within : p.cursor.Within n)
    (nothing : (body work number size p t store).record = []) :
    (body work number size p t store).state.cursor.ended = true := by
  rcases complete_draw work number size none { p with attempted := 0 } t store within with
    ⟨d, mem, -⟩ | full | ended
  · change d ∈ (body ..).record at mem
    rw [nothing] at mem
    cases mem
  · change (body ..).record.length = size at full
    rw [nothing] at full
    exact absurd full (Nat.ne_of_lt size_pos)
  · exact ended

/-! ## Attempts -/

theorem moves_attempt {a : Attempt (List (Delivery τ)) Unit}
    (h : Runner.attempt (body work number size) accepts p store = (a, p', store')) :
    p.Moves a.deliveries p' := by
  cases a with
  | unbegun e =>
    obtain ⟨rfl, -⟩ := Runner.attempt_unbegun h
    exact .nil _
  | ended record ending =>
    obtain ⟨t, begun, -, rfl, rfl, -⟩ := Runner.attempt_ended h
    exact moves_body work number size p t begun

theorem invocation_attempt {a : Attempt (List (Delivery τ)) Unit}
    (h : Runner.attempt (body work number size) accepts p store = (a, p', store')) (i : Nat)
    {d : Delivery τ} (at_i : a.deliveries[i]? = some d) : d.invocation.batch = number ∧
      d.invocation.stats = { p.stats with totalSteps := p.stats.totalSteps + i + 1 } := by
  cases a with
  | unbegun e => cases at_i
  | ended record ending =>
    obtain ⟨t, begun, -, rfl, -, -⟩ := Runner.attempt_ended h
    obtain ⟨batch, -, stats⟩ :=
      invocation_draw work number size none { p with attempted := 0 } t begun i at_i
    exact ⟨batch, stats⟩

theorem length_deliveries_attempt {a : Attempt (List (Delivery τ)) Unit}
    (h : Runner.attempt (body work number size) accepts p store = (a, p', store')) :
    a.deliveries.length ≤ size := by
  cases a with
  | unbegun e => exact Nat.zero_le _
  | ended record ending =>
    obtain ⟨t, begun, -, rfl, -, -⟩ := Runner.attempt_ended h
    exact length_record_draw ..

/-- The calls made of a unit of work in an attempt are its deliveries. -/
theorem calls_attempt {a : Attempt (List (Delivery τ)) Unit} {calls : σ → List (Invocation τ)}
    (keeps : work.Keeps ω calls)
    (h : Runner.attempt (body work number size) accepts p store = (a, p', store')) :
    calls p'.state = calls p.state ++ a.deliveries.map (·.invocation) := by
  cases a with
  | unbegun e =>
    obtain ⟨rfl, -⟩ := Runner.attempt_unbegun h
    exact (List.append_nil _).symm
  | ended record ending =>
    obtain ⟨t, begun, -, rfl, rfl, -⟩ := Runner.attempt_ended h
    exact calls_draw work number size none { p with attempted := 0 } t begun keeps

/-- Every delivery of an attempt is a call of the unit of work. -/
theorem of_attempt {a : Attempt (List (Delivery τ)) Unit}
    (h : Runner.attempt (body work number size) accepts p store = (a, p', store')) :
    ∀ d ∈ a.deliveries, d.Of ω work := by
  cases a with
  | unbegun e => exact fun d mem => absurd mem List.not_mem_nil
  | ended record ending =>
    obtain ⟨t, begun, -, rfl, -, -⟩ := Runner.attempt_ended h
    exact of_draw work number size none { p with attempted := 0 } t begun

/-- An attempt is committed only if the unit of work succeeded for all its items. -/
theorem result_kept_attempt {a : Attempt (List (Delivery τ)) Unit}
    (h : Runner.attempt (body work number size) accepts p store = (a, p', store')) :
    ∀ d ∈ a.kept, d.result = .ok () := by
  intro d mem
  cases a with
  | unbegun e => cases mem
  | ended record ending =>
    obtain ⟨t, begun, -, rfl, -, concluded⟩ := Runner.attempt_ended h
    cases ending with
    | committed result =>
      have ok := (Runner.conclude_cases concluded).1
      rw [result_body work number size p t begun] at ok
      exact failure?_eq_none.mp (verdict_eq_ok.mp ok) d mem
    | commitFailed | declined | rolledBack | rollbackFailed => cases mem

/-! ## Series of attempts -/

variable {as : List (Attempt (List (Delivery τ)) Unit)}

theorem calls_tries {calls : σ → List (Invocation τ)} (keeps : work.Keeps ω calls)
    (h : Runner.Tries (body work number size) accepts p store as p' store') :
    calls p'.state = calls p.state ++ (as.flatMap Attempt.deliveries).map (·.invocation) := by
  induction h with
  | nil p store => exact (List.append_nil _).symm
  | cons step _ ih =>
    rw [ih, calls_attempt keeps step, List.flatMap_cons, List.map_append, List.append_assoc]

theorem moves_tries (h : Runner.Tries (body work number size) accepts p store as p' store') :
    p.Moves (as.flatMap Attempt.deliveries) p' := by
  induction h with
  | nil p store => exact .nil p
  | cons step _ ih => exact (moves_attempt step).append ih

/-- In all attempts the unit of work is told the batch's number and shown the counters with the steps of
the batch so far. -/
theorem invocation_tries (h : Runner.Tries (body work number size) accepts p store as p' store')
    (i : Nat) {d : Delivery τ} (at_i : (as.flatMap Attempt.deliveries)[i]? = some d) :
    d.invocation.batch = number ∧
      d.invocation.stats = { p.stats with totalSteps := p.stats.totalSteps + i + 1 } := by
  induction h generalizing i with
  | nil p store => cases at_i
  | @cons p p₁ p₂ store store₁ store₂ a as step _ ih =>
    rw [List.flatMap_cons, List.getElem?_append] at at_i
    split at at_i
    · exact invocation_attempt step i at_i
    · rename_i later
      obtain ⟨batch, stats⟩ := ih _ at_i
      have steps : p.stats.totalSteps + a.deliveries.length + (i - a.deliveries.length) =
          p.stats.totalSteps + i := by omega
      refine ⟨batch, ?_⟩
      rw [stats, (moves_attempt step).stats, steps]

end Batch

end GraphBatch
