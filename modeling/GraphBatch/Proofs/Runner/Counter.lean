import GraphBatch.Proofs.Runner.Retries

/-!
# The attempt counter

Attempts are numbered from 1, and the counter holds the numbers up to `lastAttempt`. Every attempt that a run
makes has such a number (`Runner.attempts_counted`). The counter is asked for one more exactly if the last
attempt is to be retried as well, and this takes as many retries as the counter has numbers
(`Runner.overflows_iff`): the budget of the first attempt and of all its retries then exceeds the numbers by one.
-/

namespace GraphBatch

namespace Runner

variable {θ ω κ σ ρ : Type} [Client ω θ]

/-- A run makes no more attempts than it has numbers and tries for. Its last attempt decides the result, and is
then transient only if no retry is left; or else it is to be retried and has the last number. -/
theorem attempts_counted (body : Body θ ω κ σ ρ) (accepts : ρ → Bool) (strategy : Strategy)
    (left number : Nat) (state : σ) (store : ω) (counted : number ≤ lastAttempt) :
    let run := attempts body accepts strategy left number state store
    ∃ before last, run.attempts = before ++ [last] ∧ (∀ a ∈ before, a.Transient) ∧
      before.length ≤ left ∧ number + before.length ≤ lastAttempt ∧
      (run.result = settle strategy last ∧ (last.Transient → before.length = left) ∨
        run.result = .error .attemptOverflow ∧ last.Transient ∧ before.length < left ∧
          number + before.length = lastAttempt) := by
  fun_induction attempts body accepts strategy left number state store with
  | case1 number state store state₁ store₁ left record e transient counted' rest step ih =>
    obtain ⟨before, last, eq, transients, tries, numbers, ends⟩ := ih counted'
    have all : ∀ a ∈ .ended record (.rolledBack e) :: before, a.Transient :=
      List.forall_mem_cons.mpr ⟨⟨record, e, rfl, transient⟩, transients⟩
    refine ⟨_ :: before, last, congrArg _ eq, all, Nat.succ_le_succ tries, ?_, ?_⟩
    · rw [List.length_cons]
      omega
    · rcases ends with ⟨settled, spent⟩ | ⟨overflow, again, more, number⟩
      · exact .inl ⟨settled, fun again => congrArg (· + 1) (spent again)⟩
      · refine .inr ⟨overflow, again, Nat.succ_lt_succ more, ?_⟩
        rw [List.length_cons]
        omega
  | case2 number state store state₁ store₁ left record e transient uncounted step =>
    have last : number = lastAttempt := by omega
    exact ⟨[], _, rfl, by simp, Nat.zero_le _, counted,
      .inr ⟨rfl, ⟨record, e, rfl, transient⟩, Nat.succ_pos left, last⟩⟩
  | case3 number state store state₁ store₁ left record e transient step =>
    refine ⟨[], _, rfl, by simp, Nat.zero_le _, counted, .inl ⟨rfl, ?_⟩⟩
    rintro ⟨record', e', same, transient'⟩
    cases same
    exact absurd transient' transient
  | case4 left number state store last state₁ store₁ step other =>
    refine ⟨[], last, rfl, by simp, Nat.zero_le _, counted, .inl ⟨rfl, ?_⟩⟩
    rintro ⟨record, e, rfl, -⟩
    cases left with
    | zero => rfl
    | succ left => exact (other left record e rfl rfl).elim

/-- The last attempt of the run is to be retried, so that one more attempt has to be counted. -/
def Overflows (runner : Runner) (run : Run ω κ σ ρ) : Prop :=
  ∃ before record e, run.attempts = before ++ [.ended record (.rolledBack e)] ∧
    runner.retries (before.length + 1) e = true

section

variable (runner : Runner) (body : Body θ ω κ σ ρ) (accepts : ρ → Bool) (strategy : Strategy) (state : σ)
  (store : ω)

/-- A run stays within its budget and within the numbers. It ends when the counter overflows after as many
transient attempts as there are numbers, or with an attempt that no other is to follow. -/
theorem run_ends :
    let run := runner.run body accepts strategy state store
    run.attempts.length ≤ runner.maxRetries + 1 ∧ run.attempts.length ≤ lastAttempt ∧
      (runner.Overflows run ∧ run.result = .error .attemptOverflow ∧ lastAttempt ≤ runner.maxRetries ∧
          run.attempts.length = lastAttempt ∧ (∀ a ∈ run.attempts, a.Transient) ∨
        ¬ runner.Overflows run ∧ ∃ last ∈ run.attempts.getLast?, run.result = settle strategy last ∧
          (last.Transient → run.attempts.length = runner.maxRetries + 1)) := by
  intro run
  obtain ⟨before, last, made, transients, tries, numbers, ends⟩ :=
    attempts_counted body accepts strategy runner.maxRetries 1 state store (by decide)
  change run.attempts = _ at made
  have length : run.attempts.length = before.length + 1 := by
    rw [made, List.length_append, List.length_singleton]
  refine ⟨by omega, by omega, ?_⟩
  rcases ends with ⟨settled, spent⟩ | ⟨overflow, again, more, number⟩
  · refine .inr ⟨?_, last, by rw [made, List.getLast?_concat]; rfl, settled, fun again => ?_⟩
    · rintro ⟨before', record, e, made', retried⟩
      obtain ⟨rfl, same⟩ := List.append_inj' (made.symm.trans made') rfl
      obtain rfl := List.singleton_inj.mp same
      obtain ⟨transient, within⟩ : e.isTransient = true ∧ before.length + 1 ≤ runner.maxRetries := by
        simpa [retries] using retried
      have spent := spent ⟨record, e, rfl, transient⟩
      omega
    · rw [length, spent again]
  · refine .inl ⟨?_, overflow, by omega, by omega, ?_⟩
    · obtain ⟨record, e, rfl, transient⟩ := again
      refine ⟨before, record, e, made, ?_⟩
      rw [retries, transient, Bool.true_and]
      exact decide_eq_true more
    · intro a mem
      rw [made] at mem
      rcases List.mem_append.mp mem with mem | mem
      · exact transients a mem
      · rw [List.mem_singleton.mp mem]
        exact again

/-- **The attempt counter.** Every attempt of a run is within the budget of the runner and has a number that the
counter holds. The counter overflows exactly if the runner allows as many retries as there are numbers and as
many attempts have been made, all of them rolled back after a transient failure; the run is then given up for
this reason, and every other run ends with what its last attempt comes to. -/
theorem overflows_iff :
    let run := runner.run body accepts strategy state store
    run.attempts.length ≤ runner.maxRetries + 1 ∧ run.attempts.length ≤ lastAttempt ∧
      (runner.Overflows run ↔ lastAttempt ≤ runner.maxRetries ∧ run.attempts.length = lastAttempt ∧
        ∀ a ∈ run.attempts, a.Transient) ∧
      (runner.Overflows run → run.result = .error .attemptOverflow) ∧
      (¬ runner.Overflows run → ∃ last ∈ run.attempts.getLast?, run.result = settle strategy last) := by
  intro run
  obtain ⟨tries, numbers, ends⟩ := run_ends runner body accepts strategy state store
  refine ⟨tries, numbers, ?_⟩
  rcases ends with ⟨overflows, given, many, all, transient⟩ | ⟨fits, last, mem, settled, spent⟩
  · exact ⟨⟨fun _ => ⟨many, all, transient⟩, fun _ => overflows⟩, fun _ => given,
      fun fits => absurd overflows fits⟩
  · refine ⟨⟨fun overflows => absurd overflows fits, ?_⟩, fun overflows => absurd overflows fits,
      fun _ => ⟨last, mem, settled⟩⟩
    rintro ⟨many, all, transient⟩
    have spent : run.attempts.length = _ := spent (transient last (List.mem_of_getLast? mem))
    omega

end

/-- A callback that finds the store busy whenever it is called fails in this way, and turns no switch. -/
theorem call_stubborn (calls : Nat) (t : Transaction) (s : Store) :
    (stubborn.body calls t s).result = .error (.transient "busy") ∧
      (stubborn.body calls t s).store.offline = s.offline := by
  rcases executed : t.execute s { text := "MATCH (n)" } with ⟨e | rows, t', s'⟩
  · obtain ⟨-, faults, rfl⟩ := Transaction.execute_error executed
    simp [Callback.bodyOn, stubborn, Program.run, executed]
  · obtain ⟨-, rfl⟩ := Transaction.execute_ok executed
    simp [Callback.bodyOn, stubborn, Program.run, executed]

/-- So every attempt at it on a store that is online is rolled back after a transient failure, and the store
stays online. -/
theorem attempt_stubborn {calls calls' : Nat} {store store' : Store} {a : Attempt Account Nat}
    (online : store.offline = false)
    (step : attempt stubborn.body (fun _ => true) calls store = (a, calls', store')) :
    store'.offline = false ∧ a.Transient := by
  rcases began : store.begin with ⟨e | t, opened⟩
  · simp [Store.begin, online] at began
  · obtain ⟨failed, kept⟩ := call_stubborn calls t opened
    obtain ⟨-, rfl⟩ := Store.begin_ok began
    rw [attempt, Store.client_begin, began] at step
    simp only [conclude, failed, undo, Store.client_rollback] at step
    cases step
    exact ⟨kept.trans online, _, _, rfl, rfl⟩

/-- With as many retries as the counter has numbers, a store that stays busy makes it overflow: the attempt that
is due next has the number 2 ^ 32, which 32 bits take for 0. -/
theorem overflows_stubborn :
    let runner : Runner := { maxRetries := lastAttempt }
    let run := runner.run stubborn.body (fun _ => true) .rethrow 0 ({} : Store)
    runner.maxRetries < Width.bound 32 ∧ runner.Overflows run ∧
      run.attempts.length + 1 = Width.bound 32 ∧ UInt32.ofNat run.attempts.length + 1 = 0 ∧
      run.result = .error .attemptOverflow := by
  intro runner run
  have tries : Tries stubborn.body (fun _ => true) 0 ({} : Store) run.attempts run.state run.store :=
    tries_attempts ..
  have transient : ∀ a ∈ run.attempts, a.Transient :=
    (tries.kept (I := (·.offline = false)) (fun online step => attempt_stubborn online step) rfl).2
  obtain ⟨-, numbers, ends⟩ := run_ends runner stubborn.body (fun _ => true) .rethrow 0 ({} : Store)
  rcases ends with ⟨overflows, given, -, all, -⟩ | ⟨-, last, mem, -, spent⟩
  · exact ⟨by decide, overflows, by rw [all]; decide, by rw [all]; decide, given⟩
  · have spent : run.attempts.length = lastAttempt + 1 := spent (transient last (List.mem_of_getLast? mem))
    exact absurd numbers (by rw [spent]; exact Nat.not_succ_le_self lastAttempt)

end Runner

end GraphBatch
