import GraphBatch.Proofs.Executor.History
import GraphBatch.Proofs.Executor.Watched

/-!
# The transactions of an execution

`Executor.Executes` is the loop over the batches without a bound on their number, and an execution is what
this loop comes to (`executes_execute`). Its attempts are of one form (`Execution.Settled`): each but the last
hands over an item, and the last decides the result. An attempt that fails transiently has handed over an
item, so neither the loop over the batches nor a batch that is tried again goes on for longer than the input
does.
-/

namespace GraphBatch

variable {θ ω σ τ : Type} [Client ω θ]

namespace Batch

variable {work : UnitOfWork σ τ} {number size : Nat} {p p' : Progress σ τ} {store store' : ω}
  {a : Attempt (List (Delivery τ)) Unit}

/-- An attempt whose body fails has handed over the item it failed for. -/
theorem deliveries_ne_nil_of_rolledBack {accepts : Unit → Bool} {record : List (Delivery τ)} {e : Failure}
    (h : Runner.attempt (body work number size) accepts p store =
      (.ended record (.rolledBack e), p', store')) : record ≠ [] := by
  obtain ⟨t, begun, -, rfl, -, concluded⟩ := Runner.attempt_ended h
  obtain ⟨failed, -⟩ := Runner.conclude_cases concluded
  rw [result_body, verdict_eq_error] at failed
  obtain ⟨d, mem, -⟩ := exists_of_failure? failed
  exact List.ne_nil_of_mem mem

theorem deliveries_ne_nil_of_transient {accepts : Unit → Bool}
    (h : Runner.attempt (body work number size) accepts p store = (a, p', store'))
    (transient : a.Transient) : a.deliveries ≠ [] := by
  obtain ⟨record, e, rfl, -⟩ := transient
  exact deliveries_ne_nil_of_rolledBack h

/-- An attempt that hands nothing over and does not fail is committed. -/
theorem commits_of_nothing
    (h : Runner.attempt (body work number size) (fun _ => true) p store = (a, p', store'))
    (nothing : a.deliveries = []) {committed? : Option Unit}
    (settled : Runner.settle .carryOn a = .ok committed?) : a.commits = true := by
  cases a with
  | unbegun e => cases settled
  | ended record ending =>
    cases ending with
    | committed result => rfl
    | commitFailed result e => cases settled
    | declined result =>
      obtain ⟨t, begun, -, -, -, concluded⟩ := Runner.attempt_ended h
      cases (Runner.conclude_cases concluded).2.1
    | rolledBack e => exact absurd nothing (deliveries_ne_nil_of_rolledBack h)
    | rollbackFailed e => cases settled

end Batch

/-- How the attempts of an execution end: each of them but the last hands over an item, the last one decides
the result, and of an execution that ends well it is an empty transaction that was committed. -/
structure Execution.Settled (e : Execution σ τ ω) (earlier : List (Attempt (List (Delivery τ)) Unit))
    (last : Attempt (List (Delivery τ)) Unit) : Prop where
  attempts : e.attempts = earlier ++ [last]
  delivering : ∀ a ∈ earlier, a.deliveries ≠ []
  result : e.result = (Runner.settle .carryOn last).map fun _ => e.executor.stats
  ended : ∀ stats, e.result = .ok stats → last.deliveries = [] ∧ last.commits = true

namespace Executor

/-- The loop over the batches, from here until one of them ends the execution. -/
inductive Executes : Executor σ τ → σ → ω → Execution σ τ ω → Prop
  | last {ex : Executor σ τ} {state : σ} {store : ω} {ending : Except Failure Unit} :
      (ex.round state store).ending = some ending →
      Executes ex state store
        { result := ending.map fun _ => (ex.round state store).executor.stats
          executor := (ex.round state store).executor
          state := (ex.round state store).state
          store := (ex.round state store).store
          batches := [(ex.round state store).record] }
  | next {ex : Executor σ τ} {state : σ} {store : ω} {rest : Execution σ τ ω} :
      (ex.round state store).ending = none →
      Executes (ex.round state store).executor (ex.round state store).state
        (ex.round state store).store rest →
      Executes ex state store { rest with batches := (ex.round state store).record :: rest.batches }

variable {ex : Executor σ τ} {state : σ} {store : ω}

/-- With enough fuel the loop is followed to its end: each round but the last takes an item off the input. -/
theorem executes_rounds {fuel : Nat} (sound : ex.Sound) (enough : ex.left.length < fuel) :
    ex.Executes state store (rounds fuel ex state store) := by
  fun_induction rounds fuel ex state store with
  | case1 ex state store => exact absurd enough (Nat.not_lt_zero _)
  | case2 fuel ex state store r ending ended => exact .last ended
  | case3 fuel ex state store r going rest ih =>
    have less : r.executor.left.length < ex.left.length := length_left_round sound going
    exact .next going (ih ((ex.advances_round state store).sound sound) (by omega))

theorem executes_execute (sound : ex.Sound) (state : σ) (store : ω) :
    ex.Executes state store (ex.execute state store) :=
  executes_rounds sound (length_left_lt_fuel sound)

/-! ## One batch -/

/-- The attempts at a batch but the last hand over items, and the last one decides the result; the count by which
the execution goes on or ends is that of its items. -/
theorem last_settled (ex : Executor σ τ) (state : σ) (store : ω)
    (countable : ex.runner.maxRetries < lastAttempt) :
    ∃ earlier last, (ex.batch state store).attempts = earlier ++ [last] ∧
      (∀ a ∈ earlier, a.deliveries ≠ []) ∧
      (ex.batch state store).result = Runner.settle .carryOn last ∧
      ∀ committed?, (ex.batch state store).result = .ok committed? →
        (ex.batch state store).state.attempted = last.deliveries.length ∧
          (last.deliveries = [] → last.commits = true) := by
  obtain ⟨earlier, last, attempts, transient, -⟩ := ex.last_batch state store
  have tries := ex.tries_batch state store
  have delivering : ∀ a ∈ (ex.batch state store).attempts, a.Transient → a.deliveries ≠ [] :=
    tries.forall_mem fun step => Batch.deliveries_ne_nil_of_transient step
  have settled : (ex.batch state store).result = Runner.settle .carryOn last :=
    (Runner.attempts_split _ _ _ _ _ _ _ (by omega) attempts).2 rfl
  refine ⟨earlier, last, attempts, ?_, settled, ?_⟩
  · intro a mem
    apply delivering a _ (transient a mem)
    rw [attempts]
    exact List.mem_append_left _ mem
  · intro committed? ok
    constructor
    · obtain ⟨before, record, ending, split, -, -, attempted⟩ := ex.attempted_batch state store ok
      rw [attempts] at split
      obtain rfl := (List.cons.inj (List.append_inj_right' split rfl)).1
      exact attempted
    · intro nothing
      rw [attempts] at tries
      obtain ⟨p, store₁, -, step⟩ := tries.split_last
      exact Batch.commits_of_nothing step nothing (settled.symm.trans ok)

/-- What the attempts at a batch say of how the execution goes on. -/
theorem settled_round (ex : Executor σ τ) (state : σ) (store : ω)
    (countable : ex.runner.maxRetries < lastAttempt) :
    let r := ex.round state store
    ∃ earlier last, r.record.attempts = earlier ++ [last] ∧ (∀ a ∈ earlier, a.deliveries ≠ []) ∧
      (r.ending = none → last.deliveries ≠ []) ∧
      ∀ ending, r.ending = some ending →
        ending = (Runner.settle .carryOn last).map (fun _ => ()) ∧
          (ending = .ok () → last.deliveries = [] ∧ last.commits = true) := by
  intro r
  obtain ⟨earlier, last, attempts, delivering, settled, counted⟩ := ex.last_settled state store countable
  refine ⟨earlier, last, attempts, delivering, ?_⟩
  rw [← settled]
  cases result : (ex.batch state store).result with
  | ok committed? =>
    obtain ⟨attempted, commits⟩ := counted committed? result
    have ended : r.ending = _ := ex.ending_of_ok state store result
    rw [ended, attempted]
    constructor
    · intro going nothing
      rw [nothing] at going
      cases going
    · intro ending found
      split at found
      · rename_i none
        cases found
        have nothing := List.eq_nil_of_length_eq_zero none
        exact ⟨rfl, fun _ => ⟨nothing, commits nothing⟩⟩
      · cases found
  | error e =>
    rcases ex.ending_cases state store with ⟨-, -, ok⟩ | ⟨-, -, committed?, ok⟩ | ⟨e', failed, error⟩
    · rw [result] at ok
      cases ok
    · cases ok.symm.trans result
    · cases error.symm.trans result
      have failed : r.ending = some (.error e) := failed
      rw [failed]
      constructor
      · intro going
        cases going
      · intro ending found
        cases found
        exact ⟨rfl, fun ok => by cases ok⟩

/-! ## All batches -/

/-- The attempts of an execution, batch by batch. -/
theorem Executes.settled {e : Execution σ τ ω} (h : ex.Executes state store e)
    (countable : ex.runner.maxRetries < lastAttempt) : ∃ earlier last, e.Settled earlier last := by
  induction h with
  | @last ex state store ending ended =>
    obtain ⟨earlier, last, attempts, delivering, -, decides⟩ := settled_round ex state store countable
    obtain ⟨decided, well⟩ := decides ending ended
    refine ⟨earlier, last, ?_, delivering, ?_, ?_⟩
    · rw [Execution.attempts, List.flatMap_singleton, attempts]
    · rw [decided]
      cases Runner.settle .carryOn last <;> rfl
    · intro stats ok
      cases ending with
      | error e => cases ok
      | ok => exact well rfl
  | @next ex state store rest going _ ih =>
    obtain ⟨before, a, attempts, delivering, goes, -⟩ := settled_round ex state store countable
    obtain ⟨earlier, last, settled⟩ := ih countable
    refine ⟨(ex.round state store).record.attempts ++ earlier, last, ?_, ?_, settled.result, settled.ended⟩
    · rw [List.append_assoc, ← settled.attempts]
      rfl
    · rw [attempts]
      intro b mem
      rcases List.mem_append.mp mem with mem | mem
      · rcases List.mem_append.mp mem with mem | mem
        · exact delivering b mem
        · obtain rfl := List.mem_singleton.mp mem
          exact goes going
      · exact settled.delivering b mem

end Executor

/-- As many items are handed over as there are attempts that hand items over. -/
theorem length_le_length_deliveries {as : List (Attempt (List (Delivery τ)) Unit)}
    (delivering : ∀ a ∈ as, a.deliveries ≠ []) : as.length ≤ (as.flatMap Attempt.deliveries).length := by
  induction as with
  | nil => exact Nat.le_refl 0
  | cons a as ih =>
    obtain ⟨some, delivering⟩ := List.forall_mem_cons.mp delivering
    have one := List.length_pos_iff.mpr some
    have more := ih delivering
    rw [List.flatMap_cons, List.length_append, List.length_cons]
    omega

namespace Execution.Settled

variable {e : Execution σ τ ω} {earlier : List (Attempt (List (Delivery τ)) Unit)}
  {last : Attempt (List (Delivery τ)) Unit} (h : e.Settled earlier last)
include h

theorem length_attempts_le : e.attempts.length ≤ e.deliveries.length + 1 := by
  have some := length_le_length_deliveries h.delivering
  rw [e.deliveries_eq, h.attempts, List.flatMap_append, List.length_append, List.length_append,
    List.length_singleton]
  omega

/-- Of the transactions that begin all but the last hand over an item. -/
theorem delivering_begun : ∀ a ∈ (e.attempts.filter Attempt.begins).dropLast, a.deliveries ≠ [] := by
  intro a mem
  apply h.delivering
  rw [h.attempts, List.filter_append] at mem
  cases begins : last.begins with
  | true =>
    rw [List.filter_cons_of_pos begins, List.filter_nil, List.dropLast_concat] at mem
    exact (List.mem_filter.mp mem).1
  | false =>
    rw [List.filter_cons_of_neg (Bool.eq_false_iff.mp begins), List.filter_nil, List.append_nil] at mem
    exact (List.mem_filter.mp ((List.dropLast_sublist _).subset mem)).1

/-- An execution that ends well ends with an empty transaction, the only one of its kind. -/
theorem ended_begun {stats : Stats} (ok : e.result = .ok stats) :
    ∃ before, e.attempts.filter Attempt.begins = before ++ [last] ∧
      (∀ a ∈ before, a.deliveries ≠ []) ∧ last.deliveries = [] ∧ last.commits = true := by
  obtain ⟨nothing, commits⟩ := h.ended stats ok
  have begins : last.begins = true := by
    cases last with
    | unbegun e => cases commits
    | ended record ending => rfl
  refine ⟨earlier.filter Attempt.begins, ?_, ?_, nothing, commits⟩
  · rw [h.attempts, List.filter_append, List.filter_cons_of_pos begins, List.filter_nil]
  · intro a mem
    exact h.delivering a (List.mem_filter.mp mem).1

end Execution.Settled

namespace Executor

/-- **Termination.** Over any client, and whatever the unit of work does, the loop over the batches comes to
an end, with what its last attempt comes to as the result. The transactions that begin are ended one after
the other, and there are at most as many as items left and one more, whatever the batch size and the number
of retries. All of them but the last hand over an item; if the execution ends well, then the last one is
empty and committed, also when it is a retry, and no other is empty. -/
theorem transactions_bounded {ex : Executor σ τ} (reachable : ex.Reachable ω)
    (countable : ex.runner.maxRetries < lastAttempt) (state : σ) (store : ω) :
    let e := ex.execute state store
    let transactions := e.attempts.filter Attempt.begins
    ex.Executes state store e ∧
      (∃ earlier last, e.attempts = earlier ++ [last] ∧
        e.result = (Runner.settle .carryOn last).map fun _ => e.executor.stats) ∧
      ex.execute state (⟨store, []⟩ : Watched ω) =
        { e with store := ⟨e.store, Watched.inTurn 0 transactions.length⟩ } ∧
      transactions.length ≤ ex.left.length + 1 ∧
      (∀ a ∈ transactions.dropLast, a.deliveries ≠ []) ∧
      ∀ stats, e.result = .ok stats → ∃ before last, transactions = before ++ [last] ∧
        (∀ a ∈ before, a.deliveries ≠ []) ∧ last.deliveries = [] ∧ last.commits = true := by
  intro e transactions
  have sound := reachable.sound
  have executes : ex.Executes state store e := executes_execute sound state store
  obtain ⟨earlier, last, settled⟩ := executes.settled countable
  refine ⟨executes, ⟨earlier, last, settled.attempts, settled.result⟩, ?_, ?_, settled.delivering_begun, ?_⟩
  · rw [← List.countP_eq_length_filter]
    exact ex.execute_watched state store
  · have handed : e.deliveries.length ≤ ex.left.length := by
      rw [(ex.advances_execute state store).left sound, List.length_append, List.length_map]
      exact Nat.le_add_right _ _
    calc transactions.length
      _ ≤ e.attempts.length := List.length_filter_le _ _
      _ ≤ e.deliveries.length + 1 := settled.length_attempts_le
      _ ≤ ex.left.length + 1 := Nat.succ_le_succ handed
  · intro stats ok
    obtain ⟨before, rest⟩ := settled.ended_begun ok
    exact ⟨before, last, rest⟩

/-- Batches of up to five items that are tried twice, by a unit of work that finds the store busy at item 2. -/
def busyAtTwo : Builder Unit Nat :=
  { work := fun invocation _ =>
      .done (if invocation.item = 2 then .error (.transient "busy") else .ok (), ())
    config := { batchSize := 5, maxRetries := 1 } }

/-- Of two items the second one meets the failure: the batch is tried again when nothing is left, and this
empty transaction is the last one. -/
theorem transactions_bounded_busyAtTwo : ∃ ex, busyAtTwo.input (.ofList [1, 2]) = .ok ex ∧
    let e := ex.execute () ({} : Store)
    ex.runner.maxRetries < lastAttempt ∧ e.batches.length = 1 ∧ e.result = .ok ⟨2, 1, 0, 1⟩ ∧
      e.store.log = ⟨2, 1, 1⟩ ∧
      (ex.execute () (⟨{}, []⟩ : Watched Store)).store.phases =
        [.begun 0, .ended 0, .begun 2, .ended 2] ∧
      ∃ before last, e.attempts.filter Attempt.begins = before ++ [last] ∧
        (∀ a ∈ before, a.deliveries ≠ []) ∧ last.deliveries = [] ∧ last.commits = true := by
  let ex : Executor Unit Nat :=
    { work := busyAtTwo.work
      runner := busyAtTwo.runner
      batchSize := 5
      cursor := (Sequence.ofList [1, 2]).cursor
      length := 2 }
  have built : busyAtTwo.input (.ofList [1, 2]) = .ok ex := rfl
  have countable : ex.runner.maxRetries < lastAttempt := by decide
  have ok : (ex.execute () ({} : Store)).result = .ok ⟨2, 1, 0, 1⟩ :=
    Execution.result_eq_ok (by decide +kernel)
  obtain ⟨-, -, watched, -, -, ended⟩ :=
    transactions_bounded (.built built) countable () ({} : Store)
  refine ⟨ex, built, countable, by decide +kernel, ok, by decide +kernel, ?_, ended _ ok⟩
  rw [watched]
  decide +kernel

end Executor

end GraphBatch
