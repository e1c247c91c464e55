import Mathlib.Data.List.Basic
import GraphBatch.Proofs.Batch.Breakdown
import GraphBatch.Proofs.Executor.Accounting
import GraphBatch.Proofs.Executor.Delivery
import GraphBatch.Proofs.Executor.Numbering

/-!
# Executions that break down

On the journaling store an execution returns a failure only if its last attempt breaks it down with just
that failure (`breaks_rounds`), and it does so whenever the unit of work loses the store
(`result_of_delivery`). What was committed before stays, the batch in progress keeps its number if it has
drawn an item, and the next execution goes on with the first item that was not handed over. An execution
entered while the store is offline leaves everything as it was (`execute_offline`).
-/

namespace GraphBatch

variable {σ τ : Type}

namespace Executor

/-! ## Batches -/

/-- A round that ends with a failure ends with an attempt that breaks down, unless the attempt counter
overflows. -/
theorem breaks_round {ex : Executor σ τ} {state : σ} {store : Store} {e : Failure}
    (failed : (ex.round state store).ending = some (.error e)) :
    (∃ earlier last, (ex.round state store).record.attempts = earlier ++ [last] ∧ last.Breaks e) ∨
      e = .attemptOverflow ∧ lastAttempt ≤ ex.runner.maxRetries := by
  have each : ∀ a ∈ (ex.batch state store).attempts, ∀ e, Runner.settle .carryOn a = .error e →
      a.Breaks e :=
    (ex.tries_batch state store).forall_mem fun step e settled => Batch.breaks_attempt step settled
  rcases ex.ending_cases state store with ⟨going, -⟩ | ⟨ended, -⟩ | ⟨e', ending, result⟩
  · cases going.symm.trans failed
  · cases ended.symm.trans failed
  · cases ending.symm.trans failed
    obtain ⟨before, last, attempts, -, settled | ⟨-, overflow⟩⟩ := ex.last_batch state store
    · refine .inl ⟨before, last, attempts, each last ?_ e (settled.symm.trans result)⟩
      rw [attempts]
      exact List.mem_concat_self
    · -- No attempt itself has the failure that stands for the overflow, so the retries lead past it.
      cases overflow.symm.trans result
      rcases Runner.lt_of_attemptOverflow _ _ _ _ _ _ _ overflow with ⟨a, mem, settled⟩ | past
      · cases (each a mem _ settled).isInfrastructure
      · exact .inr ⟨rfl, by omega⟩

/-- An attempt that breaks down is the last one at its batch, which fails by it. -/
theorem result_of_breaks {ex : Executor σ τ} {state : σ} {store : Store}
    {a : Attempt (List (Delivery τ)) Unit} {e : Failure} (mem : a ∈ (ex.batch state store).attempts)
    (breaks : a.Breaks e) : (ex.batch state store).result = .error e := by
  obtain ⟨before, last, attempts, transient, decided⟩ := ex.last_batch state store
  rw [attempts] at mem
  rcases List.mem_append.mp mem with earlier | final
  · exact absurd (transient a earlier) breaks.not_transient
  · obtain rfl := List.mem_singleton.mp final
    rcases decided with settled | ⟨transient, -⟩
    · exact settled.trans breaks.settle
    · exact absurd transient breaks.not_transient

/-- An infrastructure failure of the unit of work ends its round. -/
theorem ending_of_delivery {ex : Executor σ τ} {state : σ} {store : Store} {d : Delivery τ} {e : Failure}
    (mem : d ∈ (ex.round state store).record.deliveries) (failed : d.result = .error e)
    (infrastructure : e.isInfrastructure = true) :
    (ex.round state store).ending = some (.error e) := by
  obtain ⟨a, attempted, delivered⟩ := List.mem_flatMap.mp mem
  have breaks : a.Breaks e := (ex.tries_batch state store).forall_mem
    (P := fun a => d ∈ a.deliveries → a.Breaks e)
    (fun step mem => Batch.breaks_of_delivery step mem failed infrastructure) a attempted delivered
  have result : (ex.batch state store).result = .error e := result_of_breaks attempted breaks
  rcases ex.ending_cases state store with ⟨-, -, ok⟩ | ⟨-, -, committed?, ok⟩ | ⟨e', ending, failed⟩
  · rw [result] at ok
    cases ok
  · cases ok.symm.trans result
  · cases failed.symm.trans result
    exact ending

/-! ## Executions -/

theorem breaks_rounds {fuel : Nat} {ex : Executor σ τ} {state : σ} {store : Store} {e : Failure}
    (failed : (rounds fuel ex state store).result = .error e) :
    (∃ earlier last, (rounds fuel ex state store).attempts = earlier ++ [last] ∧ last.Breaks e) ∨
      e = .attemptOverflow ∧ lastAttempt ≤ ex.runner.maxRetries := by
  fun_induction rounds fuel ex state store with
  | case1 ex state store => cases failed
  | case2 fuel ex state store r ending ended =>
    rw [Execution.attempts, List.flatMap_singleton]
    cases ending with
    | ok => cases failed
    | error e' =>
      cases failed
      exact breaks_round ended
  | case3 fuel ex state store r going rest ih =>
    rcases ih failed with ⟨earlier, last, attempts, breaks⟩ | overflow
    · refine .inl ⟨r.record.attempts ++ earlier, last, ?_, breaks⟩
      rw [List.append_assoc, ← attempts]
      rfl
    · exact .inr overflow

/-- An infrastructure failure of the unit of work is returned by the execution. -/
theorem result_of_delivery {fuel : Nat} {ex : Executor σ τ} {state : σ} {store : Store} {d : Delivery τ}
    {e : Failure} (mem : d ∈ (rounds fuel ex state store).deliveries) (failed : d.result = .error e)
    (infrastructure : e.isInfrastructure = true) : (rounds fuel ex state store).result = .error e := by
  fun_induction rounds fuel ex state store with
  | case1 ex state store => cases mem
  | case2 fuel ex state store r ending ended =>
    rw [Execution.deliveries, List.flatMap_singleton] at mem
    have broken : r.ending = some (.error e) := ending_of_delivery mem failed infrastructure
    cases broken.symm.trans ended
    rfl
  | case3 fuel ex state store r going rest ih =>
    rw [Execution.deliveries, List.flatMap_cons] at mem
    rcases List.mem_append.mp mem with mem | mem
    · have broken : r.ending = some (.error e) := ending_of_delivery mem failed infrastructure
      cases broken.symm.trans going
    · exact ih mem

/-! ## The store offline and online -/

/-- A round entered while the store is offline is over before anything is done. -/
theorem round_offline (ex : Executor σ τ) (state : σ) {store : Store} (offline : store.offline = true) :
    ex.round state store =
      { ending := some (.error .storeOffline)
        executor := ex
        state := state
        store := store
        record := ⟨ex.stats.batches + 1, [.unbegun .storeOffline], .empty⟩ } := by
  have refused : store.begin = (.error .storeOffline, store) := if_pos offline
  have batch : ex.batch state store =
      ⟨.error .storeOffline, ex.start state, store, [.unbegun .storeOffline]⟩ := by
    rw [Executor.batch, Runner.run, Runner.attempts, Runner.attempt, Store.client_begin, refused]
    cases ex.runner.maxRetries <;> rfl
  rw [round, batch]
  rfl

theorem execute_offline {ex : Executor σ τ} (sound : ex.Sound) (state : σ) {store : Store}
    (offline : store.offline = true) :
    ex.execute state store =
      { result := .error .storeOffline
        executor := ex
        state := state
        store := store
        batches := [⟨ex.stats.batches + 1, [.unbegun .storeOffline], .empty⟩] } := by
  obtain ⟨fuel, eq⟩ := sound.execute_eq state store
  rw [eq, rounds, ex.round_offline state offline]
  rfl

/-- A round entered while the store is online hands an item over if one is left. -/
theorem left_of_round {ex : Executor σ τ} (sound : ex.Sound) {state : σ} {store : Store}
    (online : store.offline = false) (nothing : (ex.round state store).record.deliveries = []) :
    ex.left = [] := by
  have tries := ex.tries_batch state store
  obtain ⟨before, last, attempts, -⟩ := ex.last_batch state store
  obtain ⟨a, as, cons⟩ : ∃ a as, (ex.batch state store).attempts = a :: as := by
    refine List.exists_cons_of_ne_nil ?_
    rw [attempts]
    exact List.append_ne_nil_of_right_ne_nil _ (List.cons_ne_nil _ _)
  change (ex.batch state store).attempts.flatMap Attempt.deliveries = [] at nothing
  rw [cons] at tries nothing
  obtain ⟨p, store₁, step, -⟩ := tries.split_first
  have first : a.deliveries = [] := (List.append_eq_nil_iff.mp nothing).1
  have moves := Batch.moves_attempt step
  rw [first] at moves
  have left := moves.draws.left sound.within
  rw [Cursor.left_of_ended (Batch.ended_of_online online sound.size sound.within step first)] at left
  exact left

theorem Sound.deliveries_execute {ex : Executor σ τ} (sound : ex.Sound) (state : σ) (store : Store) :
    ∃ later, (ex.execute state store).deliveries = (ex.round state store).record.deliveries ++ later := by
  obtain ⟨fuel, eq⟩ := sound.execute_eq state store
  rw [eq, rounds]
  cases (ex.round state store).ending with
  | some ending => exact ⟨[], rfl⟩
  | none => exact ⟨_, rfl⟩

/-- An execution entered while the store is online starts with the first item that is left. -/
theorem head?_deliveries {ex : Executor σ τ} (sound : ex.Sound) (state : σ) {store : Store}
    (online : store.offline = false) :
    (ex.execute state store).deliveries.head?.map (·.invocation.item) = ex.left.head? := by
  have left : ex.left = (ex.execute state store).deliveries.map (·.invocation.item) ++
      (ex.execute state store).executor.left := (ex.advances_execute state store).left sound
  cases delivered : (ex.execute state store).deliveries with
  | cons d ds =>
    rw [left, delivered]
    rfl
  | nil =>
    obtain ⟨later, eq⟩ := sound.deliveries_execute state store
    have nothing := (List.append_eq_nil_iff.mp (eq.symm.trans delivered)).1
    rw [left_of_round sound online nothing]
    rfl

/-- An execution that follows a history, on a store that is online, starts with the first item that was not
handed over in it. -/
theorem head?_delivered {ex : Executor σ τ} (sound : ex.Sound) (entries : List (σ × Store)) (state : σ)
    {store : Store} (online : store.offline = false) :
    ((ex.after entries).execute state store).deliveries.head?.map (·.invocation.item) =
      ex.left[(delivered (ex.executions entries)).length]? := by
  rw [head?_deliveries (sound.after entries) state online, ← delivered_append_left sound entries,
    List.getElem?_append_right (Nat.le_refl _), Nat.sub_self, List.head?_eq_getElem?]

/-- **Executions that break down.** If an execution returns a failure, its last attempt breaks it down with
just that infrastructure failure, and nothing is called afterwards; the one exception is a runner allowed
more attempts than can be counted, which has no result. Conversely an infrastructure failure of the unit of
work is the failure returned. However the execution ends,

* what its committed attempts did is journaled and counted, and the batches counted are the numbers under
  which items were ever handed over, so that the last batch keeps its number exactly if it drew an item;
* the items handed over so far are the first of the input, and an execution that follows on a store that is
  online starts with the next one.

Entered while the store is offline it changes nothing, and later executions go as if it had not been made. -/
theorem execute_breakdown {b : Builder σ τ} {items : Sequence τ} {ex : Executor σ τ}
    (built : b.input items = .ok ex) (entries : List (σ × Store)) (state : σ) (store : Store) :
    let opening := ex.after entries
    let call := opening.execute state store
    let calls := ex.executions entries ++ [call]
    (∀ e, call.result = .error e →
        (e.isInfrastructure = true ∧ ∃ earlier last, call.attempts = earlier ++ [last] ∧ last.Breaks e) ∨
          e = .attemptOverflow ∧ lastAttempt ≤ opening.runner.maxRetries) ∧
      (∀ d ∈ call.deliveries, ∀ e, d.result = .error e → e.isInfrastructure = true →
        call.result = .error e) ∧
      call.store.journal = store.journal ++
        call.attempts.flatMap (fun a => Batch.outside a.deliveries ++ Batch.inside a.kept) ∧
      call.executor.stats.successfulSteps =
        opening.stats.successfulSteps + (call.attempts.flatMap Attempt.kept).length ∧
      call.executor.stats.batches = (handed calls).card ∧
      (∃ earlier last, call.batches = earlier ++ [last] ∧
        call.executor.stats.batches + (if last.drew then 0 else 1) = last.number) ∧
      delivered calls <+: items.toList ∧
      (∀ (state' : σ) (store' : Store), store'.offline = false →
        (call.executor.execute state' store').deliveries.head?.map (·.invocation.item) =
          items.toList[(delivered calls).length]?) ∧
      (store.offline = true →
        call.result = .error .storeOffline ∧ call.deliveries = [] ∧ call.executor = opening ∧
          call.state = state ∧ call.store = store ∧
          ∀ later, ex.executions (entries ++ (state, store) :: later) =
            ex.executions entries ++ call :: opening.executions later) := by
  intro opening call calls
  obtain ⟨sound, left, fresh⟩ := sound_of_input built
  have whole : ex.executions (entries ++ [(state, store)]) = calls := executions_append ..
  have last : ex.after (entries ++ [(state, store)]) = call.executor := after_append ..
  refine ⟨?_, ?_, ?_, ?_, ?_, ?_, ?_, ?_, ?_⟩
  · intro e failed
    rcases breaks_rounds failed with ⟨earlier, last, attempts, breaks⟩ | overflow
    · exact .inl ⟨breaks.isInfrastructure, earlier, last, attempts, breaks⟩
    · exact .inr overflow
  · intro d mem e failed infrastructure
    exact result_of_delivery mem failed infrastructure
  · rw [(opening.books_execute state store).journal]
    exact congrArg _ (List.flatMap_congr fun a _ => a.journaled_eq)
  · rw [(opening.advances_execute state store).successfulSteps, Execution.attempts, List.flatMap_assoc]
    rfl
  · have batches := ex.card_handed (entries ++ [(state, store)])
    rw [whole, last, fresh] at batches
    exact batches.trans (Nat.zero_add _)
  · obtain ⟨fuel, eq⟩ := (sound.after entries).execute_eq state store
    have number := number_rounds fuel opening state store
    rw [← eq] at number
    exact number
  · rw [← left, ← delivered_append_left sound (entries ++ [(state, store)]), whole]
    exact List.prefix_append _ _
  · intro state' store' online
    have head := head?_delivered sound (entries ++ [(state, store)]) state' online
    rw [whole, last, left] at head
    exact head
  · intro offline
    have unchanged := execute_offline (sound.after entries) state offline
    change call = _ at unchanged
    refine ⟨?_, ?_, ?_, ?_, ?_, ?_⟩
    · rw [unchanged]
    · rw [unchanged]
      rfl
    · rw [unchanged]
    · rw [unchanged]
    · rw [unchanged]
    · intro later
      rw [executions_append, executions]
      change _ ++ call :: call.executor.executions later = _
      rw [unchanged]

/-- Batches of one item, by a unit of work that sends a statement and loses the connection at item 2. -/
def losing : Builder Unit Nat :=
  { work := fun invocation _ =>
      .inside { text := "item " ++ toString invocation.item } fun _ =>
        .done (if invocation.item = 2 then .error (.connection "lost") else .ok (), ())
    config := { batchSize := 1 } }

/-- The executor of these batches over three items. -/
def losingOver : Executor Unit Nat :=
  { work := losing.work
    runner := losing.runner
    batchSize := 1
    cursor := (Sequence.ofList [1, 2, 3]).cursor
    length := 3 }

/-- The first item stays committed, the second is lost with the connection, and a new execution starts
with the third; one that finds the store offline changes nothing. -/
theorem execute_breakdown_losing :
    let call := losingOver.execute () ({} : Store)
    losing.input (.ofList [1, 2, 3]) = .ok losingOver ∧
      (∃ earlier last, call.attempts = earlier ++ [last] ∧ last.Breaks (.connection "lost")) ∧
      call.executor.stats = ⟨2, 2, 1, 0⟩ ∧ call.store.journal.map (·.text) = ["item 1"] ∧
      (call.executor.execute () ({} : Store)).deliveries.head?.map (·.invocation.item) = some 3 ∧
      (losingOver.execute () ({ offline := true } : Store)).executor = losingOver := by
  intro call
  have built : losing.input (.ofList [1, 2, 3]) = .ok losingOver := rfl
  have failed : call.result = .error (.connection "lost") := rfl
  have two : delivered [call] = [1, 2] := by decide +kernel
  obtain ⟨breaks, -, -, -, -, -, -, next, -⟩ := execute_breakdown built [] () {}
  obtain ⟨-, -, -, -, -, -, -, -, unchanged⟩ := execute_breakdown built [] () { offline := true }
  refine ⟨built, ?_, by decide +kernel, by decide +kernel, ?_, ?_⟩
  · rcases breaks _ failed with ⟨-, breaks⟩ | ⟨overflow, -⟩
    · exact breaks
    · cases overflow
  · have head : (call.executor.execute () ({} : Store)).deliveries.head?.map (·.invocation.item) =
        (Sequence.ofList [1, 2, 3]).toList[(delivered [call]).length]? := next () {} rfl
    rw [head, two, Sequence.toList_ofList]
    rfl
  · exact (unchanged rfl).2.2.1

end Executor

end GraphBatch
