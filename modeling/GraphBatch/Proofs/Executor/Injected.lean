import GraphBatch.Proofs.Executor.Faults

/-!
# Executions with injected faults

A number of faults pending when an execution starts costs just as many of the first items, and the rest go as
if there had been none: `Executor.Faulted` says so of the attempts of an execution, and `faulted_execute` that
every execution on a steady store is of this form. The counters, the journal and the log follow from it in
closed form.
-/

namespace GraphBatch

variable {σ τ : Type}

namespace Executor

/-- The batches that draw an item, when the first `lost` items are lost by batches of so many tries and the
others make up a number of chunks. A batch that has lost items with a try left goes on with the first chunk,
or ends the execution if there is none. -/
def batchesDrawn (tries lost chunks : Nat) : Nat :=
  lost / tries + if tries ∣ lost then chunks else max 1 chunks

theorem batchesDrawn_zero (tries chunks : Nat) : batchesDrawn tries 0 chunks = chunks := by
  simp [batchesDrawn]

theorem batchesDrawn_add {tries : Nat} (pos : 0 < tries) (lost chunks : Nat) :
    batchesDrawn tries (tries + lost) chunks = batchesDrawn tries lost chunks + 1 := by
  simp only [batchesDrawn, Nat.add_div_left lost pos, Nat.dvd_add_right (Nat.dvd_refl tries)]
  omega

theorem batchesDrawn_of_lt {tries lost : Nat} (some : 0 < lost) (few : lost < tries) (chunks : Nat) :
    batchesDrawn tries lost chunks = max 1 chunks := by
  rw [batchesDrawn, Nat.div_eq_of_lt few, if_neg (Nat.not_dvd_of_pos_of_lt some few), Nat.zero_add]

/-- An execution that loses the first items to the faults pending, one in each attempt, and commits the others
in chunks. -/
structure Faulted (ex : Executor σ τ) (store : Store) (e : Execution σ τ Store)
    (gone kept : List (Delivery τ)) : Prop where
  result : e.result = .ok e.executor.stats
  items : (gone ++ kept).map (·.invocation.item) = ex.left
  length : gone.length = min store.faults ex.left.length
  attempts : e.attempts.map outcome =
    gone.map (fun d => ([d], false)) ++ (chunks ex.batchSize kept ++ [[]]).map fun c => (c, true)
  drew : e.batches.countP BatchRecord.drew =
    batchesDrawn (ex.runner.maxRetries + 1) gone.length (kept.length ⌈/⌉ ex.batchSize)
  loses : e.batches.countP BatchRecord.loses = gone.length ⌈/⌉ (ex.runner.maxRetries + 1)
  faults : e.store.faults = store.faults - gone.length

variable {ex : Executor σ τ} {state : σ} {store : Store} {gone kept chunk : List (Delivery τ)}

/-! ## Batch by batch -/

theorem attempts_cons (record : BatchRecord τ) (rest : Execution σ τ Store) :
    ({ rest with batches := record :: rest.batches } : Execution σ τ Store).attempts.map outcome =
      record.attempts.map outcome ++ rest.attempts.map outcome := by
  rw [Execution.attempts, List.flatMap_cons, List.map_append]
  rfl

/-- A batch that is given up, and what follows it. -/
theorem Faulted.givenUp {lost : List (Delivery τ)} {rest : Execution σ τ Store}
    (h : Batch.GivenUp ex.length (ex.runner.maxRetries + 1) (ex.start state) store lost
      (ex.batch state store))
    (later : (ex.round state store).executor.Faulted (ex.round state store).store rest gone kept) :
    ex.Faulted store { rest with batches := (ex.round state store).record :: rest.batches }
      (lost ++ gone) kept := by
  have attempts : (ex.round state store).record.attempts.map outcome = lost.map fun d => ([d], false) :=
    h.attempts
  have left : ex.left = lost.map (·.invocation.item) ++ (ex.round state store).executor.left := h.items
  have faults : (ex.round state store).store.faults = store.faults - (ex.runner.maxRetries + 1) := h.faults
  have enough := h.enough
  have length := h.length
  obtain ⟨d, ds, rfl⟩ : ∃ d ds, lost = d :: ds := by
    refine List.exists_cons_of_length_pos ?_
    rw [length]
    exact Nat.succ_pos _
  have drew : (ex.round state store).record.drew = true := by
    rw [drew_eq_any, attempts]
    rfl
  have loses : (ex.round state store).record.loses = true := by
    rw [loses_eq_any, attempts]
    rfl
  refine ⟨later.result, ?_, ?_, ?_, ?_, ?_, ?_⟩
  · rw [left, ← later.items, List.append_assoc, List.map_append]
  · rw [List.length_append, later.length, faults, left, List.length_append, List.length_map, length]
    omega
  · rw [attempts_cons, attempts, later.attempts, ← List.append_assoc, ← List.map_append]
    rfl
  · rw [List.countP_cons_of_pos drew, later.drew, List.length_append, length,
      batchesDrawn_add (Nat.succ_pos _)]
    rfl
  · rw [List.countP_cons_of_pos loses, later.loses, List.length_append, length,
      ceilDiv_eq_sub_ceilDiv_add_one (Nat.succ_pos ex.runner.maxRetries) (by omega), Nat.add_sub_cancel_left]
    rfl
  · rw [later.faults, faults, List.length_append, length]
    omega

section Recovered

variable (h : Batch.Recovered ex.batchSize ex.length (ex.runner.maxRetries + 1) (ex.start state) store gone
  chunk (ex.batch state store))
include h

/-- While there are items left a batch commits only when all faults are used up. -/
theorem faults_recovered (some : chunk ≠ []) : (ex.round state store).store.faults = 0 := by
  have length : gone.length = min store.faults ex.left.length := h.length
  have faults : (ex.round state store).store.faults = store.faults - gone.length := h.faults
  have taken : chunk.map (·.invocation.item) = (ex.left.drop gone.length).take ex.batchSize := h.taken
  have count := congrArg List.length taken
  rw [List.length_map, List.length_take, List.length_drop] at count
  have pos := List.length_pos_iff.mpr some
  omega

/-- A batch that commits in the end counts once among those that lose items, unless it has lost none. -/
theorem loses_recovered : (if (ex.round state store).record.loses then 1 else 0) =
    gone.length ⌈/⌉ (ex.runner.maxRetries + 1) := by
  have attempts : (ex.round state store).record.attempts.map outcome =
      gone.map (fun d => ([d], false)) ++ [(chunk, true)] := h.attempts
  rw [loses_eq_any, attempts]
  rcases Nat.eq_zero_or_pos gone.length with none | some
  · obtain rfl := List.eq_nil_of_length_eq_zero none
    exact (zero_ceilDiv _).symm
  · rw [ceilDiv_eq_one some (Nat.le_of_lt h.few)]
    obtain ⟨d, ds, rfl⟩ := List.exists_cons_of_length_pos some
    rfl

/-- A batch that loses items and then commits some, and what follows it. -/
theorem Faulted.recovered {rest : Execution σ τ Store} (size : 0 < ex.batchSize) (some : chunk ≠ [])
    (later : (ex.round state store).executor.Faulted (ex.round state store).store rest [] kept) :
    ex.Faulted store { rest with batches := (ex.round state store).record :: rest.batches } gone
      (chunk ++ kept) := by
  have attempts : (ex.round state store).record.attempts.map outcome =
      gone.map (fun d => ([d], false)) ++ [(chunk, true)] := h.attempts
  have lost : gone.map (·.invocation.item) = ex.left.take gone.length := h.lost
  have taken : chunk.map (·.invocation.item) = (ex.left.drop gone.length).take ex.batchSize := h.taken
  have left : kept.map (·.invocation.item) = (ex.left.drop gone.length).drop ex.batchSize :=
    later.items.trans h.left
  have more : ex.left.drop gone.length ≠ [] := by
    intro nothing
    rw [nothing, List.take_nil, List.map_eq_nil_iff] at taken
    exact some taken
  have cut := chunks_append size taken left more
  have count : (chunk ++ kept).length ⌈/⌉ ex.batchSize = kept.length ⌈/⌉ ex.batchSize + 1 := by
    have lengths := congrArg List.length cut
    rwa [List.length_cons, length_chunks, length_chunks] at lengths
  have drew : (ex.round state store).record.drew = true := by
    obtain ⟨d, ds, rfl⟩ := List.exists_cons_of_ne_nil some
    rw [drew_eq_any, attempts, List.any_append]
    exact Bool.or_true _
  refine ⟨later.result, ?_, h.length, ?_, ?_, ?_, ?_⟩
  · rw [List.map_append, List.map_append, lost, taken, left, List.take_append_drop, List.take_append_drop]
  · rw [attempts_cons, attempts, later.attempts, cut, List.append_assoc]
    rfl
  · rw [List.countP_cons_of_pos drew, later.drew, count, List.length_nil, batchesDrawn_zero]
    rcases Nat.eq_zero_or_pos gone.length with none | lost
    · rw [none, batchesDrawn_zero]
      rfl
    · rw [batchesDrawn_of_lt lost h.few, Nat.max_eq_right (Nat.succ_pos _)]
      rfl
  · rw [List.countP_cons, later.loses, loses_recovered h, List.length_nil, zero_ceilDiv, Nat.zero_add]
  · rw [later.faults, List.length_nil, Nat.sub_zero]
    exact h.faults

end Recovered

/-- The batch that finds the end. -/
theorem Faulted.last
    (h : Batch.Recovered ex.batchSize ex.length (ex.runner.maxRetries + 1) (ex.start state) store gone []
      (ex.batch state store)) (size : 0 < ex.batchSize) :
    ex.Faulted store
      { result := .ok (ex.round state store).executor.stats
        executor := (ex.round state store).executor
        state := (ex.round state store).state
        store := (ex.round state store).store
        batches := [(ex.round state store).record] } gone [] := by
  have attempts : (ex.round state store).record.attempts.map outcome =
      gone.map (fun d => ([d], false)) ++ [([], true)] := h.attempts
  have taken : [] = (ex.left.drop gone.length).take ex.batchSize := h.taken
  have nothing : ex.left.drop gone.length = [] := by
    rcases List.take_eq_nil_iff.mp taken.symm with zero | nothing
    · exact absurd zero (Nat.ne_of_gt size)
    · exact nothing
  refine ⟨rfl, ?_, h.length, ?_, ?_, ?_, h.faults⟩
  · have lost : gone.map (·.invocation.item) = ex.left.take gone.length := h.lost
    rw [List.append_nil, lost, List.take_of_length_le (List.drop_eq_nil_iff.mp nothing)]
  · rw [Execution.attempts, List.flatMap_singleton, attempts, chunks_nil]
    rfl
  · rw [List.countP_singleton, drew_eq_any, attempts, List.length_nil, zero_ceilDiv]
    rcases Nat.eq_zero_or_pos gone.length with none | some
    · obtain rfl := List.eq_nil_of_length_eq_zero none
      exact (batchesDrawn_zero _ 0).symm
    · rw [batchesDrawn_of_lt some h.few]
      obtain ⟨d, ds, rfl⟩ := List.exists_cons_of_length_pos some
      rfl
  · rw [List.countP_singleton, loses_recovered h]

/-! ## All batches -/

variable {statement : Invocation τ → σ → Statement}

theorem faring_round (sends : ex.work.Sends statement) (sound : ex.Sound) (steady : store.Steady)
    (countable : ex.runner.maxRetries < lastAttempt) (state : σ) : ∃ gone,
    Batch.GivenUp ex.length (ex.runner.maxRetries + 1) (ex.start state) store gone (ex.batch state store) ∨
      ∃ chunk, Batch.Recovered ex.batchSize ex.length (ex.runner.maxRetries + 1) (ex.start state) store gone
        chunk (ex.batch state store) :=
  Batch.faring_attempts sends sound.size ex.runner.maxRetries 1 (ex.start state) store steady sound.within
    (by omega)

theorem faulted_rounds {fuel : Nat} (sends : ex.work.Sends statement) (sound : ex.Sound)
    (steady : store.Steady) (countable : ex.runner.maxRetries < lastAttempt)
    (enough : ex.left.length < fuel) : ∃ gone kept, ex.Faulted store (rounds fuel ex state store) gone kept := by
  fun_induction rounds fuel ex state store with
  | case1 ex state store => exact absurd enough (Nat.not_lt_zero _)
  | case2 fuel ex state store r ending ended =>
    obtain ⟨gone, givenUp | ⟨chunk, recovered⟩⟩ := faring_round sends sound steady countable state
    · have going := ex.ending_of_ok state store givenUp.result
      rw [givenUp.attempted] at going
      cases going.symm.trans ended
    · have last := ex.ending_of_ok state store recovered.result
      rw [recovered.attempted] at last
      cases chunk with
      | cons d ds => cases last.symm.trans ended
      | nil =>
        cases last.symm.trans ended
        exact ⟨gone, [], .last recovered sound.size⟩
  | case3 fuel ex state store r going rest ih =>
    have less : r.executor.left.length < ex.left.length := length_left_round sound going
    have still : r.store.Steady := ((ex.tries_batch state store).kept (I := Store.Steady)
      (P := fun _ => True) (fun steady step => ⟨Batch.steady_of_attempt sends steady step, trivial⟩) steady).1
    obtain ⟨gone', kept, later⟩ := ih sends ((ex.advances_round state store).sound sound) still countable
      (by omega)
    obtain ⟨gone, givenUp | ⟨chunk, recovered⟩⟩ := faring_round sends sound steady countable state
    · exact ⟨gone ++ gone', kept, .givenUp givenUp later⟩
    · have last := ex.ending_of_ok state store recovered.result
      rw [recovered.attempted] at last
      cases chunk with
      | nil => cases last.symm.trans going
      | cons d ds =>
        -- a batch that commits an item has used up the faults, so that nothing is lost after it
        have some : d :: ds ≠ [] := List.cons_ne_nil d ds
        obtain rfl : gone' = [] := by
          refine List.eq_nil_of_length_eq_zero ?_
          rw [later.length]
          exact Nat.min_eq_zero_iff.mpr (.inl (faults_recovered recovered some))
        exact ⟨gone, _, .recovered recovered sound.size some later⟩

theorem faulted_execute (sends : ex.work.Sends statement) (sound : ex.Sound) (steady : store.Steady)
    (countable : ex.runner.maxRetries < lastAttempt) (state : σ) :
    ∃ gone kept, ex.Faulted store (ex.execute state store) gone kept :=
  faulted_rounds sends sound steady countable (length_left_lt_fuel sound)

/-- Every attempt of an execution over a steady store is made in a transaction. -/
theorem begins_execute (sends : ex.work.Sends statement) (steady : store.Steady) (state : σ) :
    ∀ a ∈ (ex.execute state store).attempts, a.begins = true := by
  refine (kept_rounds (I := Store.Steady) (fun steady step => ⟨?_, ?_⟩) steady).2
  · exact Batch.steady_of_attempt sends steady step
  · exact Runner.begins_of_online steady.online step

/-! ## What follows for the counters and the store -/

/-- The deliveries of attempts that are selected by their outcomes. -/
theorem deliveries_filter (p : List (Delivery τ) × Bool → Bool) (as : List (Attempt (List (Delivery τ)) Unit)) :
    (as.filter fun a => p (outcome a)).flatMap Attempt.deliveries =
      ((as.map outcome).filter p).flatMap (·.1) := by
  rw [List.filter_map, List.flatMap_map]
  rfl

theorem flatMap_lost (gone : List (Delivery τ)) :
    (gone.map fun d => ([d], false)).flatMap (·.1) = gone := by
  rw [List.flatMap_map]
  exact List.flatMap_singleton' gone

theorem flatMap_committed {size : Nat} (pos : 0 < size) (kept : List (Delivery τ)) :
    (List.map (fun c => (c, true)) (chunks size kept ++ [[]])).flatMap (·.1) = kept := by
  rw [List.flatMap_map, List.flatMap_id', List.flatten_append, flatten_chunks pos]
  exact List.append_nil kept

namespace Faulted

variable {e : Execution σ τ Store} (h : ex.Faulted store e gone kept)
include h

theorem deliveries (size : 0 < ex.batchSize) : e.deliveries = gone ++ kept := by
  have all : e.deliveries = (e.attempts.map outcome).flatMap (·.1) := by
    rw [e.deliveries_eq, List.flatMap_map]
    rfl
  rw [all, h.attempts, List.flatMap_append, flatMap_lost, flatMap_committed size]

theorem deliveries_lost : (e.attempts.filter (!·.commits)).flatMap Attempt.deliveries = gone := by
  refine (deliveries_filter (!·.2) e.attempts).trans ?_
  rw [h.attempts, List.filter_append, List.filter_eq_self.mpr (by simp),
    List.filter_eq_nil_iff.mpr (by simp), List.append_nil, flatMap_lost]

theorem deliveries_committed (size : 0 < ex.batchSize) :
    (e.attempts.filter Attempt.commits).flatMap Attempt.deliveries = kept := by
  refine (deliveries_filter (·.2) e.attempts).trans ?_
  rw [h.attempts, List.filter_append, List.filter_eq_nil_iff.mpr (by simp),
    List.filter_eq_self.mpr (by simp), List.nil_append, flatMap_committed size]

theorem length_kept : kept.length = ex.left.length - gone.length := by
  have count := congrArg List.length h.items
  rw [List.length_map, List.length_append] at count
  omega

theorem countP_commits :
    e.attempts.countP Attempt.commits = (ex.left.length - gone.length) ⌈/⌉ ex.batchSize + 1 := by
  have count : e.attempts.countP Attempt.commits = (e.attempts.map outcome).countP (·.2) := by
    rw [List.countP_map]
    rfl
  rw [count, h.attempts, List.countP_append, List.countP_eq_zero.mpr (by simp),
    List.countP_eq_length.mpr (by simp), List.length_map, List.length_append, length_chunks, h.length_kept]
  exact Nat.zero_add _

theorem countP_not_commits : e.attempts.countP (!·.commits) = gone.length := by
  have count : e.attempts.countP (!·.commits) = (e.attempts.map outcome).countP (!·.2) := by
    rw [List.countP_map]
    rfl
  rw [count, h.attempts, List.countP_append, List.countP_eq_length.mpr (by simp),
    List.countP_eq_zero.mpr (by simp), List.length_map]
  rfl

theorem stats (advances : ex.Advances e.batches e.executor) (size : 0 < ex.batchSize)
    (unbroken : e.batches.countP BatchRecord.isBroken = 0) :
    e.executor.stats =
      { totalSteps := ex.stats.totalSteps + ex.left.length
        batches := ex.stats.batches + batchesDrawn (ex.runner.maxRetries + 1) gone.length
          ((ex.left.length - gone.length) ⌈/⌉ ex.batchSize)
        successfulSteps := ex.stats.successfulSteps + (ex.left.length - gone.length)
        failedBatches := ex.stats.failedBatches + gone.length ⌈/⌉ (ex.runner.maxRetries + 1) } := by
  refine Stats.ext ?_ ?_ ?_ ?_
  · have steps := congrArg List.length h.items
    rw [List.length_map, ← h.deliveries size] at steps
    rw [advances.totalSteps, ← steps]
    rfl
  · rw [advances.batches, h.drew, h.length_kept]
  · rw [advances.successfulSteps, ← h.length_kept, ← h.deliveries_committed size, ← Attempt.flatMap_kept,
      Execution.attempts, List.flatMap_assoc]
    rfl
  · have failed := advances.failedBatches
    rwa [unbroken, h.loses] at failed

theorem log (books : store.Books Batch.inside Batch.outside e.attempts e.store)
    (begins : ∀ a ∈ e.attempts, a.begins = true) :
    e.store.log =
      { begun := store.log.begun +
          (gone.length + (ex.left.length - gone.length) ⌈/⌉ ex.batchSize + 1)
        committed := store.log.committed + ((ex.left.length - gone.length) ⌈/⌉ ex.batchSize + 1)
        rolledBack := store.log.rolledBack + gone.length } := by
  have rolledBack : e.attempts.countP (fun a => a.begins && !a.commits) = gone.length := by
    rw [List.countP_congr fun a mem => by rw [begins a mem, Bool.true_and], h.countP_not_commits]
  have begun : e.attempts.countP Attempt.begins =
      gone.length + (ex.left.length - gone.length) ⌈/⌉ ex.batchSize + 1 := by
    rw [List.countP_eq_length.mpr begins, ← List.length_map outcome, h.attempts, List.length_append,
      List.length_map, List.length_map, List.length_append, length_chunks, h.length_kept]
    rfl
  refine Log.ext ?_ ?_ ?_
  · rw [books.begun, begun]
  · rw [books.committed, h.countP_commits]
  · rw [books.rolledBack, rolledBack]

end Faulted

/-- **Injected faults.** The unit of work sends one statement for each item and returns what became of it, and
`k` faults are pending when a new executor is executed on a store that is online and accepts commits. Then the
execution ends well. It loses just the first items, as many as there are faults, and commits the statements of
the others in their order; a batch is tried again `maxRetries` times, so that as many of the lost items and one
more make up a failed batch. The counters, the log and the faults that are left are in closed form. -/
theorem execute_injected {b : Builder σ τ} {items : Sequence τ} {ex : Executor σ τ}
    (built : b.input items = .ok ex) (countable : ex.runner.maxRetries < lastAttempt)
    (sends : b.work.Sends statement) (online : store.offline = false)
    (accepting : store.rejectsCommits = false) (k : Nat) (state : σ) :
    let e := ex.execute state (store.set (.faults k))
    let n := items.toList.length
    let lost := min k n
    let tries := ex.runner.maxRetries + 1
    let rest := (n - lost) ⌈/⌉ ex.batchSize
    let committed := (e.attempts.filter (·.commits)).flatMap Attempt.deliveries
    ((e.attempts.filter (!·.commits)).flatMap Attempt.deliveries).map (·.invocation.item) =
        items.toList.take lost ∧
      committed.map (·.invocation.item) = items.toList.drop lost ∧
      e.store.journal = store.journal ++ committed.flatMap (·.account.inside) ∧
      (∀ d ∈ committed, ∃ state, d.account.inside = [statement d.invocation state]) ∧
      e.result = .ok
        { totalSteps := n
          batches := lost / tries + if tries ∣ lost then rest else max 1 rest
          successfulSteps := n - lost
          failedBatches := lost ⌈/⌉ tries } ∧
      e.store.log =
        { begun := store.log.begun + (lost + rest + 1)
          committed := store.log.committed + (rest + 1)
          rolledBack := store.log.rolledBack + lost } ∧
      e.store.faults = k - lost := by
  intro e n lost tries rest committed
  obtain ⟨sound, left, fresh⟩ := sound_of_input built
  have sends : ex.work.Sends statement := by rwa [work_of_input built]
  have steady : (store.set (.faults k)).Steady := ⟨online, accepting⟩
  obtain ⟨gone, kept, faulted⟩ := faulted_execute sends sound steady countable state
  change ex.Faulted _ e gone kept at faulted
  have length : gone.length = lost := by
    rw [faulted.length, left]
    rfl
  have deliveries : committed = kept := faulted.deliveries_committed sound.size
  have items_eq : gone.map (·.invocation.item) ++ kept.map (·.invocation.item) = items.toList := by
    rw [← List.map_append, faulted.items, left]
  have books := ex.books_execute state (store.set (.faults k))
  have advances := ex.advances_execute state (store.set (.faults k))
  refine ⟨?_, ?_, ?_, ?_, ?_, ?_, ?_⟩
  · rw [faulted.deliveries_lost, ← items_eq, List.take_left' (by rw [List.length_map, length])]
  · rw [deliveries, ← items_eq, List.drop_left' (by rw [List.length_map, length])]
  · rw [books.journal, journaled_execute sends.confined, Attempt.flatMap_kept, Store.journal_set]
    rfl
  · have each : ∀ a ∈ e.attempts, ∀ d ∈ a.kept, ∃ state, d.account.inside = [statement d.invocation state] :=
      forall_attempts_execute fun step d mem =>
        sends.inside_eq (Batch.of_attempt step d (Attempt.mem_deliveries_of_kept mem))
          (Batch.result_kept_attempt step d mem)
    intro d mem
    obtain ⟨a, attempted, mem⟩ : ∃ a ∈ e.attempts, d ∈ a.kept := by
      rw [← List.mem_flatMap, Attempt.flatMap_kept]
      exact mem
    exact each a attempted d mem
  · have unbroken : e.batches.countP BatchRecord.isBroken = 0 :=
      (countP_isBroken_rounds _ ex state _).trans
        (if_neg (Bool.eq_false_iff.mp (Execution.isBroken_of_ok faulted.result)))
    rw [faulted.result, faulted.stats advances sound.size unbroken, fresh, left, length]
    simp only [Nat.zero_add]
    rfl
  · rw [faulted.log books (begins_execute sends steady state), left, length, Store.log_set]
  · rw [faulted.faults, length]
    rfl

/-- Batches of two items that are tried twice, by a unit of work that sends one statement for each item. -/
def sending : Builder Unit Nat :=
  { work := fun invocation _ => .inside { text := "item " ++ toString invocation.item } fun reply =>
      .done (reply.map fun _ => (), ())
    config := { batchSize := 2, maxRetries := 1 } }

/-- Of five items three faults cost the first three: the first batch is given up, and the second one recovers
from its fault. -/
theorem execute_injected_sending : ∃ ex, sending.input (.ofList [1, 2, 3, 4, 5]) = .ok ex ∧
    ex.runner.maxRetries < lastAttempt ∧
    sending.work.Sends (fun invocation _ => { text := "item " ++ toString invocation.item }) ∧
    let e := ex.execute () (({} : Store).set (.faults 3))
    ((e.attempts.filter (!·.commits)).flatMap Attempt.deliveries).map (·.invocation.item) = [1, 2, 3] ∧
      e.result = .ok ⟨5, 2, 2, 2⟩ ∧ e.store.log = ⟨5, 2, 3⟩ ∧ e.store.faults = 0 ∧
      e.store.journal.map (·.text) = ["item 4", "item 5"] := by
  let ex : Executor Unit Nat :=
    { work := sending.work
      runner := sending.runner
      batchSize := 2
      cursor := (Sequence.ofList [1, 2, 3, 4, 5]).cursor
      length := 5 }
  have built : sending.input (.ofList [1, 2, 3, 4, 5]) = .ok ex := rfl
  have countable : ex.runner.maxRetries < lastAttempt := by decide
  have sends : sending.work.Sends fun invocation _ => { text := "item " ++ toString invocation.item } :=
    fun invocation state => ⟨fun _ => (), rfl⟩
  have online : ({} : Store).offline = false := rfl
  obtain ⟨lost, -, -, -, -, log, faults⟩ := execute_injected built countable sends online rfl 3 ()
  rw [Sequence.toList_ofList] at lost log faults
  refine ⟨ex, built, countable, sends, lost, ?_, ?_, faults, by decide +kernel⟩
  · exact Execution.result_eq_ok (by decide +kernel)
  · rw [log]
    decide +kernel

end Executor

end GraphBatch
