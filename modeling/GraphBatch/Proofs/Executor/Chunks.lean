import GraphBatch.Proofs.Batch.Calm
import GraphBatch.Proofs.Chunks
import GraphBatch.Proofs.Executor.Accounting

/-!
# Executions by chunks

In calm conditions an execution does what its description says: it cuts the items left into chunks of
the batch size, runs a transaction for each of them and one more for the end of the input, and commits
those of which no item fails. `Executor.Chunked` says so of the attempts of an execution, and the
counters, the journal and the log follow from it.
-/

namespace GraphBatch

variable {σ τ : Type}

namespace Executor

variable {ex : Executor σ τ} {state : σ} {store : Store}

/-! ## One batch -/

/-- The next batch is attempted once, in calm conditions. -/
structure CalmRound (ex : Executor σ τ) (state : σ) (store : Store)
    (a : Attempt (List (Delivery τ)) Unit) : Prop where
  attempts : (ex.round state store).record.attempts = [a]
  calm : Batch.Calm (ex.stats.batches + 1) ex.batchSize ex.length (ex.start state) a
    (ex.batch state store).state
  ok : (ex.batch state store).result.isOk = true

theorem calm_round (sound : ex.Sound)
    (accepted : ∀ a ∈ (ex.round state store).record.attempts, a.refused = false)
    (quiet : ∀ d ∈ (ex.round state store).record.deliveries, d.storeFailure? = none) :
    ∃ a, ex.CalmRound state store a := by
  have tries := ex.tries_batch state store
  have quiet : ∀ a ∈ (ex.batch state store).attempts, ∀ d ∈ a.deliveries, d.storeFailure? = none :=
    fun a mem d mem' => quiet d (List.mem_flatMap_of_mem mem mem')
  have final : ∀ a ∈ (ex.batch state store).attempts, ¬ a.Transient := fun a mem =>
    tries.forall_mem (P := fun a => (∀ d ∈ a.deliveries, d.storeFailure? = none) → ¬ a.Transient)
      Batch.not_transient_attempt a mem (quiet a mem)
  obtain ⟨before, last, attempts, transient, result⟩ := ex.last_batch state store
  -- an attempt before the last one was tried again, for which there was no reason
  obtain rfl : before = [] := List.eq_nil_iff_forall_not_mem.mpr fun a mem =>
    final a (by rw [attempts]; exact List.mem_append_left _ mem) (transient a mem)
  rw [List.nil_append] at attempts
  have mem : last ∈ (ex.batch state store).attempts := by
    rw [attempts]
    exact List.mem_singleton_self last
  rw [attempts] at tries
  cases tries with
  | cons step rest =>
    cases rest
    have calm := Batch.calm_attempt step sound.within (accepted last mem) (quiet last mem)
    refine ⟨last, attempts, calm, ?_⟩
    rcases result with settled | ⟨again, -⟩
    · rw [settled]
      exact calm.settles
    · exact absurd again (final last mem)

namespace CalmRound

variable {a : Attempt (List (Delivery τ)) Unit} (h : ex.CalmRound state store a)
include h

theorem deliveries : (ex.round state store).record.deliveries = a.deliveries := by
  rw [BatchRecord.deliveries, h.attempts, List.flatMap_singleton]

theorem items : a.deliveries.map (·.invocation.item) = ex.left.take ex.batchSize :=
  h.calm.items

theorem left : (ex.round state store).executor.left = ex.left.drop ex.batchSize :=
  h.calm.left

theorem length_deliveries : a.deliveries.length = min ex.batchSize ex.left.length := by
  rw [← List.length_map (·.invocation.item), h.items, List.length_take]

/-- The execution ends with the batch that finds nothing left. -/
theorem ending (size : 0 < ex.batchSize) : (ex.left = [] → (ex.round state store).ending = some (.ok ())) ∧
    (ex.left ≠ [] → (ex.round state store).ending = none) := by
  obtain ⟨committed?, result⟩ : ∃ committed?, (ex.batch state store).result = .ok committed? := by
    cases result : (ex.batch state store).result with
    | ok committed? => exact ⟨committed?, rfl⟩
    | error e =>
      have ok := h.ok
      rw [result] at ok
      cases ok
  rw [ex.ending_of_ok state store result, h.calm.attempted, h.length_deliveries]
  refine ⟨fun nothing => ?_, fun some => ?_⟩
  · rw [nothing, List.length_nil, Nat.min_zero]
    rfl
  · have drew : min ex.batchSize ex.left.length ≠ 0 := by
      have := List.length_pos_iff.mpr some
      omega
    exact if_neg drew

end CalmRound

/-! ## All batches -/

/-- An attempt as seen from outside: what it delivered and whether it committed. -/
def outcome (a : Attempt (List (Delivery τ)) Unit) : List (Delivery τ) × Bool :=
  (a.deliveries, a.commits)

theorem drew_eq_any (b : BatchRecord τ) :
    b.drew = (b.attempts.map outcome).any fun o => !o.1.isEmpty := by
  rw [Bool.eq_iff_iff]
  simp [BatchRecord.drew, BatchRecord.deliveries, outcome]

theorem loses_eq_any (b : BatchRecord τ) :
    b.loses = (b.attempts.map outcome).any fun o => !o.2 && !o.1.isEmpty := by
  rw [List.any_map]
  refine congrArg b.attempts.any (funext fun a => ?_)
  rw [Attempt.loses, ← Option.not_isSome]
  rfl

/-- An execution that hands all items left over in chunks of the batch size, each in one attempt that
commits if no item of it fails, and then finds the end in an attempt of its own. -/
structure Chunked (ex : Executor σ τ) (e : Execution σ τ Store) : Prop where
  result : e.result = .ok e.executor.stats
  items : e.deliveries.map (·.invocation.item) = ex.left
  begins : ∀ a ∈ e.attempts, a.begins = true
  attempts : e.batches.map (·.attempts.map outcome) =
    (chunks ex.batchSize e.deliveries ++ [[]]).map fun c => [(c, Batch.clean c)]
  positions : ∀ (i : Nat) {d : Delivery τ}, e.deliveries[i]? = some d →
    d.invocation.batch = ex.stats.batches + (i + 1) ⌈/⌉ ex.batchSize ∧
      d.invocation.step = i % ex.batchSize + 1

/-- The batch that finds the end. -/
theorem Chunked.last {a : Attempt (List (Delivery τ)) Unit} (round : ex.CalmRound state store a)
    (nothing : ex.left = []) :
    ex.Chunked ⟨.ok (ex.round state store).executor.stats, (ex.round state store).executor,
      (ex.round state store).state, (ex.round state store).store, [(ex.round state store).record]⟩ := by
  have none : a.deliveries = [] := by
    have length := round.length_deliveries
    rw [nothing, List.length_nil, Nat.min_zero] at length
    exact List.eq_nil_of_length_eq_zero length
  have deliveries : [(ex.round state store).record].flatMap BatchRecord.deliveries = [] := by
    rw [List.flatMap_singleton, round.deliveries, none]
  refine ⟨rfl, ?_, ?_, ?_, ?_⟩
  · rw [Execution.deliveries, deliveries, nothing]
    rfl
  · rw [Execution.attempts, List.flatMap_singleton, round.attempts]
    intro b mem
    obtain rfl := List.mem_singleton.mp mem
    exact round.calm.begins
  · rw [Execution.deliveries, deliveries, chunks_nil, List.map_singleton, round.attempts,
      List.map_singleton, outcome, round.calm.commits, none]
    rfl
  · intro i d at_i
    rw [Execution.deliveries, deliveries] at at_i
    cases at_i

/-- A batch and what follows it. -/
theorem Chunked.cons {a : Attempt (List (Delivery τ)) Unit} {rest : Execution σ τ Store}
    (size : 0 < ex.batchSize) (round : ex.CalmRound state store a) (some : ex.left ≠ [])
    (chunked : (ex.round state store).executor.Chunked rest) :
    ex.Chunked { rest with batches := (ex.round state store).record :: rest.batches } := by
  have deliveries : ((ex.round state store).record :: rest.batches).flatMap BatchRecord.deliveries =
      a.deliveries ++ rest.deliveries := by
    rw [List.flatMap_cons, round.deliveries]
    rfl
  have later := chunked.items
  rw [round.left] at later
  refine ⟨chunked.result, ?_, ?_, ?_, ?_⟩
  · rw [Execution.deliveries, deliveries, List.map_append, round.items, later, List.take_append_drop]
  · intro b mem
    rw [Execution.attempts, List.flatMap_cons, round.attempts, List.singleton_append,
      List.mem_cons] at mem
    rcases mem with rfl | mem
    · exact round.calm.begins
    · exact chunked.begins b mem
  · have cut := chunks_append size round.items later some
    have commits : (ex.round state store).record.attempts.map outcome =
        [(a.deliveries, Batch.clean a.deliveries)] := by
      rw [round.attempts, List.map_singleton, outcome, round.calm.commits]
    rw [Execution.deliveries, deliveries, cut, List.map_cons, commits, chunked.attempts]
    rfl
  · have length := round.length_deliveries
    have drew : 0 < a.deliveries.length := by
      have := List.length_pos_iff.mpr some
      omega
    have numbered : (ex.round state store).executor.stats.batches = ex.stats.batches + 1 := by
      rw [stats_round, drew_round, drawn_round, round.deliveries, decide_eq_true drew]
      rfl
    intro i d at_i
    rw [Execution.deliveries, deliveries] at at_i
    rcases Nat.lt_or_ge i a.deliveries.length with first | past
    · rw [List.getElem?_append_left first] at at_i
      obtain ⟨batch, step⟩ := round.calm.positions i at_i
      constructor
      · rw [batch, ceilDiv_eq_one (Nat.succ_pos i) (by omega)]
      · rw [step, Nat.mod_eq_of_lt (by omega)]
    · rw [List.getElem?_append_right past] at at_i
      obtain ⟨batch, step⟩ := chunked.positions _ at_i
      -- there is something after the first chunk, so that it is full
      have full : a.deliveries.length = ex.batchSize := by
        have inside := (List.getElem?_eq_some_iff.mp at_i).1
        have more := congrArg List.length later
        rw [List.length_map, List.length_drop] at more
        omega
      rw [full] at past batch step
      constructor
      · rw [batch, numbered, ceilDiv_eq_sub_ceilDiv_add_one size (Nat.succ_pos i), Nat.succ_sub past,
          Nat.add_assoc, Nat.add_comm 1]
        rfl
      · rw [step, Nat.mod_eq_sub_mod past]
        rfl

theorem chunked_rounds {fuel : Nat} (sound : ex.Sound) (enough : ex.left.length < fuel)
    (accepted : ∀ a ∈ (rounds fuel ex state store).attempts, a.refused = false)
    (quiet : ∀ d ∈ (rounds fuel ex state store).deliveries, d.storeFailure? = none) :
    ex.Chunked (rounds fuel ex state store) := by
  fun_induction rounds fuel ex state store with
  | case1 ex state store => exact absurd enough (Nat.not_lt_zero _)
  | case2 fuel ex state store r ending ended =>
    simp only [Execution.attempts, Execution.deliveries, List.flatMap_singleton] at accepted quiet
    obtain ⟨a, round⟩ := calm_round sound accepted quiet
    obtain ⟨last, more⟩ := round.ending sound.size
    by_cases nothing : ex.left = []
    · obtain rfl : ending = .ok () := Option.some.inj (ended.symm.trans (last nothing))
      exact .last round nothing
    · cases ended.symm.trans (more nothing)
  | case3 fuel ex state store r going rest ih =>
    simp only [Execution.attempts, Execution.deliveries, List.flatMap_cons, List.mem_append] at accepted quiet
    obtain ⟨a, round⟩ :=
      calm_round sound (fun a mem => accepted a (.inl mem)) (fun d mem => quiet d (.inl mem))
    obtain ⟨last, -⟩ := round.ending sound.size
    have some : ex.left ≠ [] := fun nothing => by cases going.symm.trans (last nothing)
    have less : r.executor.left.length < ex.left.length := length_left_round sound going
    exact .cons sound.size round some <|
      ih ((ex.advances_round state store).sound sound) (by omega) (fun a mem => accepted a (.inr mem))
        fun d mem => quiet d (.inr mem)

theorem chunked_execute (sound : ex.Sound)
    (accepted : ∀ a ∈ (ex.execute state store).attempts, a.refused = false)
    (quiet : ∀ d ∈ (ex.execute state store).deliveries, d.storeFailure? = none) :
    ex.Chunked (ex.execute state store) :=
  chunked_rounds sound (length_left_lt_fuel sound) accepted quiet

/-! ## What follows for the counters and the store -/

namespace Chunked

variable {e : Execution σ τ Store} (h : ex.Chunked e)
include h

theorem length_deliveries : e.deliveries.length = ex.left.length := by
  rw [← h.items, List.length_map]

theorem map_outcome : e.attempts.map outcome =
    (chunks ex.batchSize e.deliveries ++ [[]]).map fun c => (c, Batch.clean c) := by
  rw [Execution.attempts, List.map_flatMap, List.flatMap_def, h.attempts, ← List.flatMap_def,
    ← List.map_eq_flatMap]

/-- Attempts are counted by chunks. -/
theorem countP_attempts (p : List (Delivery τ) × Bool → Bool) :
    e.attempts.countP (fun a => p (outcome a)) =
      (chunks ex.batchSize e.deliveries ++ [[]]).countP fun c => p (c, Batch.clean c) := by
  have count := congrArg (List.countP p) h.map_outcome
  rwa [List.countP_map, List.countP_map] at count

/-- Batches are counted by chunks. -/
theorem countP_batches (p : List (List (Delivery τ) × Bool) → Bool) :
    e.batches.countP (fun b => p (b.attempts.map outcome)) =
      (chunks ex.batchSize e.deliveries ++ [[]]).countP fun c => p [(c, Batch.clean c)] := by
  have count := congrArg (List.countP p) h.attempts
  rwa [List.countP_map, List.countP_map] at count

theorem countP_drew (size : 0 < ex.batchSize) :
    e.batches.countP BatchRecord.drew = (chunks ex.batchSize e.deliveries).length := by
  rw [funext drew_eq_any, h.countP_batches fun os => os.any fun o => !o.1.isEmpty, List.countP_append]
  refine Nat.add_eq_left.mpr rfl |>.trans (List.countP_eq_length.mpr fun c mem => ?_)
  simpa using ne_nil_of_mem_chunks size mem

theorem countP_loses : e.batches.countP BatchRecord.loses =
    ((chunks ex.batchSize e.deliveries).filter (!Batch.clean ·)).length := by
  -- an empty chunk is clean, so that a chunk with a failure has items
  have failing : ∀ c : List (Delivery τ),
      ([(c, Batch.clean c)].any fun o => !o.2 && !o.1.isEmpty) = !Batch.clean c := by
    intro c
    cases c <;> simp [Batch.clean]
  rw [funext loses_eq_any, h.countP_batches fun os => os.any fun o => !o.2 && !o.1.isEmpty, funext failing,
    List.countP_append, ← List.countP_eq_length_filter]
  rfl

theorem countP_commits : e.attempts.countP Attempt.commits =
    ((chunks ex.batchSize e.deliveries).filter Batch.clean).length + 1 := by
  have count := h.countP_attempts (·.2)
  rw [List.countP_append, List.countP_eq_length_filter (p := Batch.clean)] at count
  exact count

theorem kept : e.attempts.flatMap Attempt.kept =
    ((chunks ex.batchSize e.deliveries).filter Batch.clean).flatten := by
  have deliveries : (e.attempts.filter Attempt.commits).map Attempt.deliveries =
      (chunks ex.batchSize e.deliveries ++ [[]]).filter Batch.clean := by
    have committed := congrArg (fun os => (os.filter (·.2)).map (·.1)) h.map_outcome
    simp only [List.filter_map, List.map_map] at committed
    exact committed.trans (List.map_id _)
  rw [Attempt.flatMap_kept, List.flatMap_def, deliveries, List.filter_append, List.flatten_append]
  exact List.append_nil _

theorem length_attempts : e.attempts.length = ex.left.length ⌈/⌉ ex.batchSize + 1 := by
  rw [← List.length_map outcome, h.map_outcome, List.length_map, List.length_append, length_chunks,
    h.length_deliveries]
  rfl

theorem stats (advances : ex.Advances e.batches e.executor) (size : 0 < ex.batchSize)
    (unbroken : e.batches.countP BatchRecord.isBroken = 0) : e.executor.stats =
      { totalSteps := ex.stats.totalSteps + ex.left.length
        batches := ex.stats.batches + ex.left.length ⌈/⌉ ex.batchSize
        successfulSteps := ex.stats.successfulSteps +
          ((chunks ex.batchSize e.deliveries).filter Batch.clean).flatten.length
        failedBatches := ex.stats.failedBatches +
          ((chunks ex.batchSize e.deliveries).filter (!Batch.clean ·)).length } := by
  refine Stats.ext ?_ ?_ ?_ ?_
  · rw [advances.totalSteps, ← h.length_deliveries]
    rfl
  · rw [advances.batches, h.countP_drew size, length_chunks, h.length_deliveries]
  · rw [advances.successfulSteps, ← h.kept, Execution.attempts, List.flatMap_assoc]
    rfl
  · have failed := advances.failedBatches
    rwa [unbroken, h.countP_loses] at failed

theorem log {store : Store} (books : store.Books Batch.inside Batch.outside e.attempts e.store) :
    e.store.log =
      { begun := store.log.begun + (ex.left.length ⌈/⌉ ex.batchSize + 1)
        committed := store.log.committed +
          (((chunks ex.batchSize e.deliveries).filter Batch.clean).length + 1)
        rolledBack := store.log.rolledBack +
          ((chunks ex.batchSize e.deliveries).filter (!Batch.clean ·)).length } := by
  refine Log.ext ?_ ?_ ?_
  · rw [books.begun, List.countP_eq_length.mpr h.begins, h.length_attempts]
  · rw [books.committed, h.countP_commits]
  · have count : e.attempts.countP (fun a => a.begins && !a.commits) =
        ((chunks ex.batchSize e.deliveries).filter (!Batch.clean ·)).length := by
      rw [List.countP_congr fun a mem => by rw [h.begins a mem, Bool.true_and],
        ← List.countP_eq_length_filter]
      exact (h.countP_attempts (!·.2)).trans List.countP_append
    rw [books.rolledBack, count]

end Chunked

/-- **Executions by chunks.** When no beginning and no commit is refused, the unit of work stays inside
its transaction and meets ordinary failures only, an execution hands over all items left, in chunks of
the batch size numbered on from the batches before. It commits the chunks of which no item failed, each
in one attempt, and an empty transaction at the end; the counters, the journal and the log grow by
what these chunks come to. -/
theorem execute_by_chunks (reachable : ex.Reachable Store) (confined : ex.work.Confined)
    (accepted : ∀ a ∈ (ex.execute state store).attempts, a.refused = false)
    (ordinary : ∀ d ∈ (ex.execute state store).deliveries, ∀ f, d.result = .error f →
      f.isStore = false) :
    let e := ex.execute state store
    let n := ex.left.length
    let size := ex.batchSize
    let good := (chunks size e.deliveries).filter Batch.clean
    let bad := (chunks size e.deliveries).filter (!Batch.clean ·)
    e.deliveries.map (·.invocation.item) = ex.left ∧
      (∀ (i : Nat) {d : Delivery τ}, e.deliveries[i]? = some d →
        d.invocation.batch = ex.stats.batches + (i + 1) ⌈/⌉ size ∧
          d.invocation.step = i % size + 1) ∧
      e.batches.map (·.attempts.map outcome) =
        (chunks size e.deliveries ++ [[]]).map (fun c => [(c, Batch.clean c)]) ∧
      e.result = .ok e.executor.stats ∧
      e.executor.stats =
        { totalSteps := ex.stats.totalSteps + n
          batches := ex.stats.batches + n ⌈/⌉ size
          successfulSteps := ex.stats.successfulSteps + good.flatten.length
          failedBatches := ex.stats.failedBatches + bad.length } ∧
      e.store.journal = store.journal ++ good.flatten.flatMap (·.account.inside) ∧
      e.store.log =
        { begun := store.log.begun + (n ⌈/⌉ size + 1)
          committed := store.log.committed + (good.length + 1)
          rolledBack := store.log.rolledBack + bad.length } := by
  intro e n size good bad
  have quiet : ∀ d ∈ e.deliveries, d.storeFailure? = none := fun d mem =>
    Delivery.storeFailure?_eq_none.mpr (ordinary d mem)
  have chunked : ex.Chunked e := chunked_execute reachable.sound accepted quiet
  have books := ex.books_execute state store
  refine ⟨chunked.items, chunked.positions, chunked.attempts, chunked.result, ?_, ?_, ?_⟩
  · refine chunked.stats (ex.advances_execute state store) reachable.sound.size ?_
    exact (countP_isBroken_rounds _ ex state store).trans
      (if_neg (Bool.eq_false_iff.mp (Execution.isBroken_of_ok chunked.result)))
  · rw [books.journal, journaled_execute confined, chunked.kept]
    rfl
  · exact chunked.log books

/-- Batches of two items, by a unit of work that sends one statement for each and rejects item 3. -/
def selective : Builder Unit Nat :=
  { work := fun invocation _ => .inside { text := "CREATE (n)" } fun _ =>
      .done (if invocation.item = 3 then .error (.unitOfWork "rejected") else .ok (), ())
    config := { batchSize := 2 } }

/-- Of five items the second chunk fails, and the others are committed. -/
theorem execute_by_chunks_selective : ∃ ex, selective.input (.ofList [1, 2, 3, 4, 5]) = .ok ex ∧
    let e := ex.execute () ({} : Store)
    (∀ a ∈ e.attempts, a.refused = false) ∧ (∀ d ∈ e.deliveries, d.storeFailure? = none) ∧
      (chunks 2 e.deliveries).map (·.map (·.invocation.item)) = [[1, 2], [3, 4], [5]] ∧
      e.executor.stats = ⟨5, 3, 3, 1⟩ ∧ e.store.log = ⟨4, 3, 1⟩ ∧ e.store.journal.length = 3 ∧
      e.result = .ok e.executor.stats := by
  let ex : Executor Unit Nat :=
    { work := selective.work
      runner := selective.runner
      batchSize := 2
      cursor := (Sequence.ofList [1, 2, 3, 4, 5]).cursor
      length := 5 }
  have built : selective.input (.ofList [1, 2, 3, 4, 5]) = .ok ex := rfl
  have accepted : ∀ a ∈ (ex.execute () ({} : Store)).attempts, a.refused = false := by decide +kernel
  have quiet : ∀ d ∈ (ex.execute () ({} : Store)).deliveries, d.storeFailure?.isNone = true := by
    decide +kernel
  have calm : ∀ d ∈ (ex.execute () ({} : Store)).deliveries, d.storeFailure? = none :=
    fun d mem => Option.isNone_iff_eq_none.mp (quiet d mem)
  have confined : ex.work.Confined := fun invocation state => .inside _ fun reply => .done _
  obtain ⟨-, -, -, ok, -⟩ := execute_by_chunks (.built built) confined accepted fun d mem =>
    Delivery.storeFailure?_eq_none.mp (calm d mem)
  exact ⟨ex, built, accepted, calm, by decide +kernel, by decide +kernel, by decide +kernel,
    by decide +kernel, ok⟩

end Executor

end GraphBatch
