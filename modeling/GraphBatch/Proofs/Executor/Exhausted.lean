import GraphBatch.Proofs.Executor.Breakdown
import GraphBatch.Proofs.Executor.Healthy

/-!
# Exhausted executors

An executor that has no items left can be executed again. Over any client that comes to a transaction in
which nothing is done (`Client.idle`), and whatever the client makes of it the executor is left as it was,
but for its cursor, which may have found the end (`execute_of_exhausted`). So it stays exhausted however often
it is executed (`after_of_exhausted`).
-/

namespace GraphBatch

variable {θ ω σ τ : Type} [Client ω θ]

/-! ## Nothing to do -/

/-- Begins a transaction and commits it with nothing done. -/
def Client.idle (store : ω) : Except Failure Unit × ω :=
  match Client.begin store with
  | (.error e, store) => (.error e, store)
  | (.ok t, store) => Client.commit t store

namespace Store

variable {s : Store}

theorem idle_of_steady (steady : s.Steady) :
    Client.idle s = (.ok (), { s with log := { s.log with
      begun := s.log.begun + 1
      committed := s.log.committed + 1 } }) := by
  rw [Client.idle, client_begin, steady.begin]
  simp [Transaction.commit, steady.online, steady.accepting]

theorem idle_of_offline (offline : s.offline = true) : Client.idle s = (.error .storeOffline, s) := by
  rw [Client.idle, client_begin, begin, if_pos offline]

theorem idle_of_rejecting (online : s.offline = false) (rejecting : s.rejectsCommits = true) :
    Client.idle s = (.error .commitRejected, { s with log := { s.log with
      begun := s.log.begun + 1
      rolledBack := s.log.rolledBack + 1 } }) := by
  rw [Client.idle, client_begin, begin, online]
  simp [Transaction.commit, Transaction.rollback, rejecting]

/-- Nothing is journaled by it, and no registered row is lost. -/
theorem idle_keeps (s : Store) :
    (Client.idle s).2.journal = s.journal ∧ (Client.idle s).2.responses = s.responses := by
  cases online : s.offline with
  | true =>
    rw [idle_of_offline online]
    exact ⟨rfl, rfl⟩
  | false =>
    cases accepting : s.rejectsCommits with
    | true =>
      rw [idle_of_rejecting online accepting]
      exact ⟨rfl, rfl⟩
    | false =>
      rw [idle_of_steady ⟨online, accepting⟩]
      exact ⟨rfl, rfl⟩

end Store

/-! ## Executions -/

/-- An attempt at a batch for which no item is left comes to a transaction in which nothing is done. -/
theorem Batch.attempt_of_spent (work : UnitOfWork σ τ) (number : Nat) {size : Nat} (size_pos : 0 < size)
    {p : Progress σ τ} (fresh : p.attempted = 0) {n : Nat} (within : p.cursor.Within n)
    (nothing : p.cursor.left n = []) (store : ω) :
    ∃ a cursor, p.cursor.Draws [] cursor ∧ a.deliveries = [] ∧ ¬ a.Transient ∧
      Runner.settle .carryOn a = (Client.idle store).1.map some ∧
      Runner.attempt (body work number size) (fun _ => true) p store =
        (a, { p with cursor }, (Client.idle store).2) := by
  obtain ⟨cursor, drawn⟩ := within.exists_of_left_eq_nil nothing
  have called (t : θ) (begun : ω) :
      body work number size p t begun = ⟨.ok (), [], { p with cursor }, t, begun⟩ := by
    obtain ⟨size, rfl⟩ := Nat.exists_eq_add_one_of_ne_zero (Nat.ne_of_gt size_pos)
    rw [body, ← fresh, draw, drawn]
    rfl
  rcases begins : Client.begin store with ⟨e | t, begun⟩
  · refine ⟨.unbegun e, p.cursor, .nil _, rfl, by rintro ⟨_, _, ⟨⟩, -⟩, ?_, ?_⟩
    · rw [Client.idle, begins]
      rfl
    · rw [Runner.attempt, Client.idle, begins]
  · rcases commits : Client.commit t begun with ⟨e | ⟨⟩, left⟩
    · refine ⟨.ended [] (.commitFailed () e), cursor, .ending drawn (.nil _), rfl,
        by rintro ⟨_, _, ⟨⟩, -⟩, ?_, ?_⟩
      · simp [Client.idle, begins, commits, Runner.settle, Except.map]
      · simp [Runner.attempt, Client.idle, begins, called, Runner.conclude, commits]
    · refine ⟨.ended [] (.committed ()), cursor, .ending drawn (.nil _), rfl,
        by rintro ⟨_, _, ⟨⟩, -⟩, ?_, ?_⟩
      · simp [Client.idle, begins, commits, Runner.settle, Except.map]
      · simp [Runner.attempt, Client.idle, begins, called, Runner.conclude, commits]

namespace Executor

variable {ex : Executor σ τ}

/-- A round of an exhausted executor is over with its transaction. -/
theorem round_of_exhausted (sound : ex.Sound) (nothing : ex.left = []) (state : σ) (store : ω) :
    ∃ a cursor, ex.cursor.Draws [] cursor ∧ a.deliveries = [] ∧
      ex.round state store =
        { ending := some (Client.idle store).1
          executor := { ex with cursor }
          state := state
          store := (Client.idle store).2
          record := ⟨ex.stats.batches + 1, [a], .empty⟩ } := by
  have fresh : (ex.start state).attempted = 0 := rfl
  obtain ⟨a, cursor, draws, deliveries, final, settled, step⟩ :=
    Batch.attempt_of_spent ex.work (ex.stats.batches + 1) sound.size fresh sound.within nothing store
  refine ⟨a, cursor, draws, deliveries, ?_⟩
  have batch : ex.batch state store = ⟨(Client.idle store).1.map some, { ex.start state with cursor },
      (Client.idle store).2, [a]⟩ := by
    rw [← settled]
    exact Runner.attempts_of_last _ _ _ step (.inr final)
  rw [round, batch]
  rcases (Client.idle store).1 with e | ⟨⟩ <;> rfl

/-- So is an execution. -/
theorem execute_of_exhausted (sound : ex.Sound) (nothing : ex.left = []) (state : σ) (store : ω) :
    ∃ a cursor, ex.cursor.Draws [] cursor ∧ a.deliveries = [] ∧
      ex.execute state store =
        { result := (Client.idle store).1.map fun _ => ex.stats
          executor := { ex with cursor }
          state := state
          store := (Client.idle store).2
          batches := [⟨ex.stats.batches + 1, [a], .empty⟩] } := by
  obtain ⟨fuel, eq⟩ := sound.execute_eq state store
  obtain ⟨a, cursor, draws, deliveries, round⟩ := round_of_exhausted sound nothing state store
  refine ⟨a, cursor, draws, deliveries, ?_⟩
  rw [eq, rounds, round]

/-- However often an exhausted executor is executed, it stays as it is. -/
theorem after_of_exhausted (sound : ex.Sound) (nothing : ex.left = []) (more : List (σ × ω)) :
    ∃ cursor, ex.cursor.Draws [] cursor ∧ ex.after more = { ex with cursor } := by
  induction more generalizing ex with
  | nil => exact ⟨ex.cursor, .nil _, rfl⟩
  | cons entry rest ih =>
    obtain ⟨state, store⟩ := entry
    obtain ⟨a, cursor, draws, -, executed⟩ := execute_of_exhausted sound nothing state store
    have still : ({ ex with cursor } : Executor σ τ).Sound := ⟨sound.size, draws.within sound.within⟩
    have left : ({ ex with cursor } : Executor σ τ).left = [] :=
      (draws.left sound.within).symm.trans nothing
    obtain ⟨cursor', draws', after⟩ := ih still left
    refine ⟨cursor', draws.append draws', ?_⟩
    rw [Executor.after, executed]
    exact after

/-- **Exhaustion is idempotent.** Once the cursor is exhausted, no later execution hands an item over, draws
from the cursor, changes a counter or touches the journal and the registered rows, whatever it finds of the
store. On a store that is online and accepts commits it begins and commits one transaction and returns the
counters; on one that is offline it returns the refusal and changes nothing at all; on one that rejects commits
it returns the rejection after one transaction that was begun and rolled back. -/
theorem execute_of_hasNext_eq_false {b : Builder σ τ} {items : Sequence τ} {ex : Executor σ τ}
    (built : b.input items = .ok ex) (entries : List (σ × Store))
    (exhausted : (ex.after entries).cursor.hasNext.1 = false) (more : List (σ × Store)) (state : σ)
    (store : Store) :
    let first := ex.after entries
    let opening := first.after more
    let call := opening.execute state store
    call.deliveries = [] ∧ call.state = state ∧ first.cursor.Draws [] call.executor.cursor ∧
      call.executor.cursor.hasNext.1 = false ∧ call.executor.stats = first.stats ∧
      call.store.journal = store.journal ∧ call.store.responses = store.responses ∧
      (store.offline = false → store.rejectsCommits = false →
        call.result = .ok first.stats ∧
          call.store = { store with log := { store.log with
            begun := store.log.begun + 1
            committed := store.log.committed + 1 } }) ∧
      (store.offline = true →
        call.result = .error .storeOffline ∧ call.executor = opening ∧ call.store = store) ∧
      (store.offline = false → store.rejectsCommits = true →
        call.result = .error .commitRejected ∧
          call.store = { store with log := { store.log with
            begun := store.log.begun + 1
            rolledBack := store.log.rolledBack + 1 } }) := by
  intro first opening call
  have sound : first.Sound := (sound_of_input built).1.after entries
  have nothing : first.left = [] := sound.within.hasNext_eq_false_iff.mp exhausted
  obtain ⟨cursor, draws, after⟩ := after_of_exhausted sound nothing more
  change opening = _ at after
  have still : opening.Sound := sound.after more
  have left : opening.left = [] := by
    rw [after]
    exact (draws.left sound.within).symm.trans nothing
  obtain ⟨a, cursor', draws', deliveries, executed⟩ := execute_of_exhausted still left state store
  change call = _ at executed
  have stats : opening.stats = first.stats := by rw [after]
  rw [after] at draws'
  have all : first.cursor.Draws [] call.executor.cursor := by
    rw [executed]
    exact draws.append draws'
  obtain ⟨journal, responses⟩ := store.idle_keeps
  refine ⟨?_, by rw [executed], all, ?_, by rw [executed, stats], by rw [executed, journal],
    by rw [executed, responses], ?_, ?_, ?_⟩
  · rw [executed, Execution.deliveries, List.flatMap_singleton, BatchRecord.deliveries,
      List.flatMap_singleton, deliveries]
  · rw [(all.within sound.within).hasNext_eq_false_iff]
    exact (all.left sound.within).symm.trans nothing
  · intro online accepting
    rw [executed, stats, Store.idle_of_steady ⟨online, accepting⟩]
    exact ⟨rfl, rfl⟩
  · intro offline
    have refused : call = _ := execute_offline still state offline
    rw [refused]
    exact ⟨rfl, rfl, rfl⟩
  · intro online rejecting
    rw [executed, Store.idle_of_rejecting online rejecting]
    exact ⟨rfl, rfl⟩

/-- The executor that loses the connection at item 2, over two items. -/
def losingLast : Executor Unit Nat :=
  { losingOver with
    cursor := (Sequence.ofList [1, 2]).cursor
    length := 2 }

/-- The connection is lost at the very last item, so that the end itself has not been found. Executed again
the executor reports its counters, whatever came in between. -/
theorem execute_of_hasNext_eq_false_losing :
    let first := losingLast.after [((), ({} : Store))]
    let opening := first.after [((), ({ offline := true } : Store)), ((), { rejectsCommits := true })]
    losing.input (.ofList [1, 2]) = .ok losingLast ∧
      (losingLast.execute () ({} : Store)).result = .error (.connection "lost") ∧
      first.cursor.hasNext.1 = false ∧ first.cursor.ended = false ∧
      (opening.execute () ({} : Store)).result = .ok ⟨2, 2, 1, 0⟩ ∧
      (opening.execute () ({} : Store)).store.log = ⟨1, 1, 0⟩ ∧
      (opening.execute () ({ rejectsCommits := true } : Store)).store.log = ⟨1, 0, 1⟩ := by
  intro first opening
  have built : losing.input (.ofList [1, 2]) = .ok losingLast := rfl
  have exhausted : first.cursor.hasNext.1 = false := by decide +kernel
  have stats : first.stats = ⟨2, 2, 1, 0⟩ := by decide +kernel
  have more (store : Store) := execute_of_hasNext_eq_false built _ exhausted
    [((), { offline := true }), ((), { rejectsCommits := true })] () store
  obtain ⟨-, -, -, -, -, -, -, accepted, -⟩ := more {}
  obtain ⟨-, -, -, -, -, -, -, -, -, rejected⟩ := more { rejectsCommits := true }
  have result : (opening.execute () ({} : Store)).result = .ok first.stats := (accepted rfl rfl).1
  have begun : (opening.execute () ({} : Store)).store.log = ⟨1, 1, 0⟩ := by
    rw [(accepted rfl rfl).2]
  have undone : (opening.execute () ({ rejectsCommits := true } : Store)).store.log = ⟨1, 0, 1⟩ := by
    rw [(rejected rfl rfl).2]
  exact ⟨built, rfl, exhausted, by decide +kernel, result.trans (congrArg _ stats), begun, undone⟩

end Executor

end GraphBatch
