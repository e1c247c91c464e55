import Mathlib.Data.List.Basic
import GraphBatch.Runner

/-!
# The attempts of a run

`Tries body accepts` relates the states before and after a series of attempts with the attempts
themselves. A run is such a series (`tries_attempts`), of which all attempts but the last were rolled
back after a transient failure and the last one decides the result (`attempts_last`). What holds of a
single attempt is carried to whole runs by induction on `Tries`.
-/

namespace GraphBatch

variable {θ ω κ σ ρ : Type} [Client ω θ]

namespace Attempt

/-- The record of the body's call, if the transaction began. -/
def record? : Attempt κ ρ → Option κ
  | .unbegun _ => none
  | .ended record _ => some record

/-- The record of the body's call, if the transaction committed. -/
def committed? : Attempt κ ρ → Option κ
  | .ended record (.committed _) => some record
  | _ => none

/-- The attempt was rolled back after a transient failure. -/
def Transient (a : Attempt κ ρ) : Prop :=
  ∃ record e, a = .ended record (.rolledBack e) ∧ e.isTransient = true

@[simp] theorem record?_ended (record : κ) (ending : Ending ρ) :
    (ended record ending).record? = some record := rfl

theorem Transient.committed? {a : Attempt κ ρ} (h : a.Transient) : a.committed? = none := by
  obtain ⟨record, e, rfl, -⟩ := h
  rfl

end Attempt

namespace Runner

/-! ## One attempt -/

/-- What an ending says of the call that it ends, and of the client's reply. -/
theorem conclude_cases {accepts : ρ → Bool} {call : Call θ ω κ σ ρ} {ending : Ending ρ} {store : ω}
    (h : conclude accepts call = (ending, store)) :
    match ending with
    | .committed r => call.result = .ok r ∧ accepts r = true ∧
        Client.commit call.transaction call.store = (.ok (), store)
    | .commitFailed r e => call.result = .ok r ∧ accepts r = true ∧
        Client.commit call.transaction call.store = (.error e, store)
    | .declined r => call.result = .ok r ∧ accepts r = false ∧
        Client.rollback call.transaction call.store = (.ok (), store)
    | .rolledBack e => call.result = .error e ∧
        Client.rollback call.transaction call.store = (.ok (), store)
    | .rollbackFailed e => Client.rollback call.transaction call.store = (.error e, store) := by
  unfold conclude undo at h
  split at h
  · rename_i result ok
    split at h
    · rename_i accepted
      split at h <;> rename_i replied <;> cases h <;> exact ⟨ok, accepted, replied⟩
    · rename_i declined
      split at h <;> rename_i replied <;> cases h
      · exact ⟨ok, Bool.eq_false_iff.mpr declined, replied⟩
      · exact replied
  · rename_i e failed
    split at h <;> rename_i replied <;> cases h
    · exact ⟨failed, replied⟩
    · exact replied

/-- An attempt that cannot begin leaves the state alone. -/
theorem attempt_unbegun {body : Body θ ω κ σ ρ} {accepts : ρ → Bool} {state state' : σ}
    {store store' : ω} {e : Failure}
    (h : attempt body accepts state store = (.unbegun e, state', store')) :
    state' = state ∧ Client.begin store = (.error e, store') := by
  unfold attempt at h
  split at h
  · rename_i begun
    cases h
    exact ⟨rfl, begun⟩
  · cases h

/-- An attempt that begins calls the body once. -/
theorem attempt_ended {body : Body θ ω κ σ ρ} {accepts : ρ → Bool} {state state' : σ}
    {store store' : ω} {record : κ} {ending : Ending ρ}
    (h : attempt body accepts state store = (.ended record ending, state', store')) :
    ∃ t begun, Client.begin store = (.ok t, begun) ∧ (body state t begun).record = record ∧
      (body state t begun).state = state' ∧
      conclude accepts (body state t begun) = (ending, store') := by
  unfold attempt at h
  split at h
  · cases h
  · rename_i t begun began
    cases h
    exact ⟨t, begun, began, rfl, rfl, rfl⟩

/-! ## Series of attempts -/

/-- Attempts made one after the other, each on what the one before left. -/
inductive Tries (body : Body θ ω κ σ ρ) (accepts : ρ → Bool) :
    σ → ω → List (Attempt κ ρ) → σ → ω → Prop
  | nil (state : σ) (store : ω) : Tries body accepts state store [] state store
  | cons {state state₁ state₂ : σ} {store store₁ store₂ : ω} {a : Attempt κ ρ}
      {as : List (Attempt κ ρ)} :
      attempt body accepts state store = (a, state₁, store₁) →
      Tries body accepts state₁ store₁ as state₂ store₂ →
      Tries body accepts state store (a :: as) state₂ store₂

variable {body : Body θ ω κ σ ρ} {accepts : ρ → Bool} {state state' : σ} {store store' : ω}

/-- What every attempt at the body keeps of the client is kept by a series, and what holds of every
attempt holds of those in the series. -/
theorem Tries.kept {I : ω → Prop} {P : Attempt κ ρ → Prop} {as : List (Attempt κ ρ)}
    (each : ∀ {state : σ} {store : ω} {a : Attempt κ ρ} {state' : σ} {store' : ω}, I store →
      attempt body accepts state store = (a, state', store') → I store' ∧ P a)
    (h : Tries body accepts state store as state' store') (start : I store) :
    I store' ∧ ∀ a ∈ as, P a := by
  induction h with
  | nil state store => exact ⟨start, by simp⟩
  | cons step _ ih =>
    obtain ⟨kept, holds⟩ := each start step
    obtain ⟨kept, later⟩ := ih kept
    exact ⟨kept, List.forall_mem_cons.mpr ⟨holds, later⟩⟩

theorem Tries.forall_mem {P : Attempt κ ρ → Prop} {as : List (Attempt κ ρ)}
    (each : ∀ {state : σ} {store : ω} {a : Attempt κ ρ} {state' : σ} {store' : ω},
      attempt body accepts state store = (a, state', store') → P a)
    (h : Tries body accepts state store as state' store') : ∀ a ∈ as, P a :=
  (h.kept (I := fun _ => True) (fun _ step => ⟨trivial, each step⟩) trivial).2

theorem Tries.split_first {a : Attempt κ ρ} {as : List (Attempt κ ρ)}
    (h : Tries body accepts state store (a :: as) state' store') :
    ∃ state₁ store₁, attempt body accepts state store = (a, state₁, store₁) ∧
      Tries body accepts state₁ store₁ as state' store' := by
  cases h with
  | cons step rest => exact ⟨_, _, step, rest⟩

/-- Where attempts lead is settled by where they start. -/
theorem Tries.unique {as : List (Attempt κ ρ)} {state₁ state₂ : σ} {store₁ store₂ : ω}
    (h : Tries body accepts state store as state₁ store₁)
    (h' : Tries body accepts state store as state₂ store₂) : state₁ = state₂ ∧ store₁ = store₂ := by
  induction h with
  | nil state store =>
    cases h'
    exact ⟨rfl, rfl⟩
  | cons step _ ih =>
    obtain ⟨state', store', step', rest⟩ := h'.split_first
    cases step.symm.trans step'
    exact ih rest

/-- The last attempt of a series starts where the others end. -/
theorem Tries.split_last {as : List (Attempt κ ρ)} {a : Attempt κ ρ}
    (h : Tries body accepts state store (as ++ [a]) state' store') :
    ∃ state₁ store₁, Tries body accepts state store as state₁ store₁ ∧
      attempt body accepts state₁ store₁ = (a, state', store') := by
  induction as generalizing state store with
  | nil =>
    cases h with
    | cons step rest =>
      cases rest
      exact ⟨state, store, .nil state store, step⟩
  | cons b as ih =>
    cases h with
    | cons step rest =>
      obtain ⟨state₁, store₁, tries, last⟩ := ih rest
      exact ⟨state₁, store₁, .cons step tries, last⟩

/-- An attempt of a series starts where those before it end, and those after it start where it ends. -/
theorem Tries.split {before after : List (Attempt κ ρ)} {a : Attempt κ ρ}
    (h : Tries body accepts state store (before ++ a :: after) state' store') :
    ∃ state₁ store₁ state₂ store₂, Tries body accepts state store before state₁ store₁ ∧
      attempt body accepts state₁ store₁ = (a, state₂, store₂) ∧
      Tries body accepts state₂ store₂ after state' store' := by
  induction before generalizing state store with
  | nil =>
    cases h with
    | cons step rest => exact ⟨_, _, _, _, .nil _ _, step, rest⟩
  | cons b before ih =>
    cases h with
    | cons step rest =>
      obtain ⟨state₁, store₁, state₂, store₂, earlier, here, later⟩ := ih rest
      exact ⟨state₁, store₁, state₂, store₂, .cons step earlier, here, later⟩

/-! ## Runs -/

/-- A run is a series of attempts. -/
theorem tries_attempts (body : Body θ ω κ σ ρ) (accepts : ρ → Bool) (strategy : Strategy)
    (left number : Nat) (state : σ) (store : ω) :
    let run := attempts body accepts strategy left number state store
    Tries body accepts state store run.attempts run.state run.store := by
  fun_induction attempts body accepts strategy left number state store with
  | case1 number state store state₁ store₁ left record e transient counted rest step ih =>
    exact .cons step ih
  | case2 number state store state₁ store₁ left record e transient uncounted step =>
    exact .cons step (.nil _ _)
  | case3 number state store state₁ store₁ left record e transient step =>
    exact .cons step (.nil _ _)
  | case4 left number state store last state₁ store₁ step other =>
    exact .cons step (.nil _ _)

/-- Every attempt of a run but the last was rolled back after a transient failure, and the last one
decides the result, unless its successor could not be counted. -/
theorem attempts_last (body : Body θ ω κ σ ρ) (accepts : ρ → Bool) (strategy : Strategy)
    (left number : Nat) (state : σ) (store : ω) :
    let run := attempts body accepts strategy left number state store
    ∃ before last, run.attempts = before ++ [last] ∧ (∀ a ∈ before, a.Transient) ∧
      (run.result = settle strategy last ∨
        last.Transient ∧ run.result = .error .attemptOverflow) := by
  fun_induction attempts body accepts strategy left number state store with
  | case1 number state store state₁ store₁ left record e transient counted rest step ih =>
    obtain ⟨before, last, eq, transients, result⟩ := ih
    refine ⟨_ :: before, last, congrArg _ eq, ?_, result⟩
    intro a mem
    rcases List.mem_cons.mp mem with rfl | mem
    · exact ⟨record, e, rfl, transient⟩
    · exact transients a mem
  | case2 number state store state₁ store₁ left record e transient uncounted step =>
    exact ⟨[], _, rfl, by simp, .inr ⟨⟨record, e, rfl, transient⟩, rfl⟩⟩
  | case3 number state store state₁ store₁ left record e transient step =>
    exact ⟨[], _, rfl, by simp, .inl rfl⟩
  | case4 left number state store last state₁ store₁ step other =>
    exact ⟨[], last, rfl, by simp, .inl rfl⟩

theorem attempts_ne_nil (body : Body θ ω κ σ ρ) (accepts : ρ → Bool) (strategy : Strategy)
    (left number : Nat) (state : σ) (store : ω) :
    (attempts body accepts strategy left number state store).attempts ≠ [] := by
  obtain ⟨before, last, attempts, -⟩ := attempts_last body accepts strategy left number state store
  rw [attempts]
  exact List.append_ne_nil_of_right_ne_nil before (List.cons_ne_nil last [])

/-- A run starts with the attempt made from where it starts. -/
theorem attempts_of_first {body : Body θ ω κ σ ρ} {accepts : ρ → Bool} {a : Attempt κ ρ}
    {state state₁ : σ} {store store₁ : ω} (strategy : Strategy) (left number : Nat)
    (step : attempt body accepts state store = (a, state₁, store₁)) :
    ∃ as, (attempts body accepts strategy left number state store).attempts = a :: as := by
  have tries : Tries body accepts state store _ _ _ :=
    tries_attempts body accepts strategy left number state store
  obtain ⟨first, as, cons⟩ := List.exists_cons_of_ne_nil (attempts_ne_nil body accepts strategy left number
    state store)
  rw [cons] at tries
  obtain ⟨state₂, store₂, step', -⟩ := tries.split_first
  obtain rfl : a = first := congrArg Prod.fst (step.symm.trans step')
  exact ⟨as, cons⟩

/-- A run goes on after an attempt that was rolled back after a transient failure, if there is a retry left. -/
theorem attempts_of_transient {body : Body θ ω κ σ ρ} {accepts : ρ → Bool} {a : Attempt κ ρ}
    {state state₁ : σ} {store store₁ : ω} (strategy : Strategy) (left : Nat) {number : Nat}
    (counted : number < lastAttempt) (step : attempt body accepts state store = (a, state₁, store₁))
    (transient : a.Transient) :
    attempts body accepts strategy (left + 1) number state store =
      let rest := attempts body accepts strategy left (number + 1) state₁ store₁
      { rest with attempts := a :: rest.attempts } := by
  obtain ⟨record, e, rfl, transient⟩ := transient
  rw [attempts, step]
  simp only [transient, counted, ↓reduceIte]

/-- Else the attempt is the last one, and decides the result. -/
theorem attempts_of_last {body : Body θ ω κ σ ρ} {accepts : ρ → Bool} {a : Attempt κ ρ}
    {state state₁ : σ} {store store₁ : ω} (strategy : Strategy) (left number : Nat)
    (step : attempt body accepts state store = (a, state₁, store₁)) (last : left = 0 ∨ ¬ a.Transient) :
    attempts body accepts strategy left number state store =
      ⟨settle strategy a, state₁, store₁, [a]⟩ := by
  rw [attempts, step]
  cases left with
  | zero => rfl
  | succ left =>
    rcases last with none | final
    · cases none
    · cases a with
      | unbegun e => rfl
      | ended record ending =>
        cases ending with
        | rolledBack e => exact if_neg fun transient => final ⟨record, e, rfl, transient⟩
        | committed | commitFailed | declined | rollbackFailed => rfl

/-- An attempt is followed by another one exactly if it was rolled back after a transient failure and there is
a retry left; one that no other follows decides the result. -/
theorem attempts_split (body : Body θ ω κ σ ρ) (accepts : ρ → Bool) (strategy : Strategy)
    (left number : Nat) (state : σ) (store : ω) (countable : number + left ≤ lastAttempt)
    {before after : List (Attempt κ ρ)} {a : Attempt κ ρ}
    (split : (attempts body accepts strategy left number state store).attempts = before ++ a :: after) :
    (after ≠ [] ↔ a.Transient ∧ before.length < left) ∧
      (after = [] →
        (attempts body accepts strategy left number state store).result = settle strategy a) := by
  fun_induction attempts body accepts strategy left number state store generalizing before with
  | case1 number state store state₁ store₁ left record e transient counted rest step ih =>
    cases before with
    | nil =>
      obtain ⟨rfl, rfl⟩ := List.cons.inj split
      have more : rest.attempts ≠ [] :=
        attempts_ne_nil body accepts strategy left (number + 1) state₁ store₁
      refine ⟨⟨fun _ => ⟨⟨record, e, rfl, transient⟩, Nat.succ_pos left⟩, fun _ => more⟩, ?_⟩
      intro nothing
      exact absurd nothing more
    | cons b before =>
      obtain ⟨again, result⟩ := ih (by omega) (List.cons.inj split).2
      refine ⟨again.trans ?_, result⟩
      rw [List.length_cons, Nat.succ_lt_succ_iff]
  | case2 number state store state₁ store₁ left record e transient uncounted step =>
    exact absurd countable (by omega)
  | case3 number state store state₁ store₁ left record e transient step =>
    obtain ⟨rfl, rfl, rfl⟩ : before = [] ∧ a = .ended record (.rolledBack e) ∧ after = [] := by
      simpa [List.singleton_eq_append_iff] using split
    refine ⟨⟨fun more => absurd rfl more, ?_⟩, fun _ => rfl⟩
    rintro ⟨⟨record', e', same, transient'⟩, -⟩
    cases same
    exact absurd transient' transient
  | case4 left number state store last state₁ store₁ step other =>
    obtain ⟨rfl, rfl, rfl⟩ : before = [] ∧ a = last ∧ after = [] := by
      simpa [List.singleton_eq_append_iff] using split
    refine ⟨⟨fun more => absurd rfl more, ?_⟩, fun _ => rfl⟩
    rintro ⟨⟨record, e, rfl, -⟩, retry⟩
    obtain ⟨left, rfl⟩ := Nat.exists_eq_add_one_of_ne_zero (Nat.ne_of_gt retry)
    exact (other left record e rfl rfl).elim

/-- An attempt that was not rolled back after a transient failure is the last one, and decides the result. -/
theorem attempts_final (body : Body θ ω κ σ ρ) (accepts : ρ → Bool) (strategy : Strategy)
    (left number : Nat) (state : σ) (store : ω) {before after : List (Attempt κ ρ)} {a : Attempt κ ρ}
    (split : (attempts body accepts strategy left number state store).attempts = before ++ a :: after)
    (final : ¬ a.Transient) :
    after = [] ∧ (attempts body accepts strategy left number state store).result = settle strategy a := by
  obtain ⟨earlier, last, made, transient, result⟩ := attempts_last body accepts strategy left number state store
  rcases List.eq_nil_or_concat' after with rfl | ⟨later, b, rfl⟩
  · obtain ⟨-, same⟩ := List.append_inj' (made.symm.trans split) rfl
    obtain rfl := List.singleton_inj.mp same
    rcases result with settled | ⟨overflow, -⟩
    · exact ⟨rfl, settled⟩
    · exact absurd overflow final
  · have longer : earlier ++ [last] = (before ++ a :: later) ++ [b] := by
      rw [List.append_assoc, List.cons_append]
      exact made.symm.trans split
    obtain ⟨rfl, -⟩ := List.append_inj' longer rfl
    exact absurd (transient a (List.mem_append_right _ (List.mem_cons_self ..))) final

/-- A run makes one attempt and at most as many more as it has retries. -/
theorem length_attempts_le (body : Body θ ω κ σ ρ) (accepts : ρ → Bool) (strategy : Strategy)
    (left number : Nat) (state : σ) (store : ω) :
    (attempts body accepts strategy left number state store).attempts.length ≤ left + 1 := by
  fun_induction attempts body accepts strategy left number state store with
  | case1 number state store state₁ store₁ left record e transient counted rest step ih =>
    exact Nat.succ_le_succ ih
  | case2 number state store state₁ store₁ left record e transient uncounted step =>
    exact Nat.succ_pos _
  | case3 number state store state₁ store₁ left record e transient step => exact Nat.succ_pos _
  | case4 left number state store last state₁ store₁ step other => exact Nat.succ_pos left

/-- The attempt counter overflows only if the retries allowed lead past it. -/
theorem lt_of_attemptOverflow (body : Body θ ω κ σ ρ) (accepts : ρ → Bool) (strategy : Strategy)
    (left number : Nat) (state : σ) (store : ω)
    (failed : (attempts body accepts strategy left number state store).result = .error .attemptOverflow) :
    (∃ a ∈ (attempts body accepts strategy left number state store).attempts,
        settle strategy a = .error .attemptOverflow) ∨ lastAttempt < number + left := by
  fun_induction attempts body accepts strategy left number state store with
  | case1 number state store state₁ store₁ left record e transient counted rest step ih =>
    rcases ih failed with ⟨a, mem, settled⟩ | past
    · exact .inl ⟨a, List.mem_cons_of_mem _ mem, settled⟩
    · exact .inr (by omega)
  | case2 number state store state₁ store₁ left record e transient uncounted step =>
    exact .inr (by omega)
  | case3 number state store state₁ store₁ left record e transient step =>
    exact .inl ⟨_, List.mem_singleton_self _, failed⟩
  | case4 left number state store last state₁ store₁ step other =>
    exact .inl ⟨_, List.mem_singleton_self _, failed⟩

/-- When every attempt at a body is followed step by step by one at another body, on a client of its own, then
so are the runs: `f made` leads to where the other body stands after the attempts `made`. -/
theorem attempts_along {θ' ω' σ' : Type} [Client ω' θ'] (body : Body θ ω κ σ ρ)
    (body' : Body θ' ω' κ σ' ρ) {accepts : ρ → Bool} (f : List (Attempt κ ρ) → σ → ω → σ' × ω')
    (each : ∀ made state store,
      let o := attempt body accepts state store
      attempt body' accepts (f made state store).1 (f made state store).2 =
        (o.1, f (made ++ [o.1]) o.2.1 o.2.2))
    (strategy : Strategy) (left number : Nat) (made : List (Attempt κ ρ)) (state : σ) (store : ω) :
    let run := attempts body accepts strategy left number state store
    let led := f (made ++ run.attempts) run.state run.store
    attempts body' accepts strategy left number (f made state store).1 (f made state store).2 =
      ⟨run.result, led.1, led.2, run.attempts⟩ := by
  induction left generalizing number made state store with
  | zero => rw [attempts, attempts, each]
  | succ left ih =>
    rw [attempts, attempts, each]
    rcases attempt body accepts state store with ⟨last, state₁, store₁⟩
    cases last with
    | unbegun e => rfl
    | ended record ending =>
      cases ending with
      | rolledBack e =>
        by_cases transient : e.isTransient
        · by_cases counted : number < lastAttempt
          · simp only [transient, counted, ih, List.append_assoc]
            rfl
          · simp only [transient, counted]
            rfl
        · simp only [transient]
          rfl
      | committed | commitFailed | declined | rollbackFailed => rfl

end Runner

end GraphBatch
