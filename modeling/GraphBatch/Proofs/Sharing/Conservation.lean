import Mathlib.Algebra.GroupWithZero.Nat
import GraphBatch.Proofs.Sharing.Request
import GraphBatch.Proofs.Sharing.Transcript

/-!
# The transaction log of a shared store

A store is shared by transactions that are opened by hand and by any number of tasks, and it answers their
operations in whatever order they come: `Sharing.Reachable` holds of every state that this can lead to. In
each of them the log accounts for all transactions that have begun (`Sharing.conservation`): they were
committed or rolled back, they were let go unfinished, or they are still open. `Sharing.Sound` is the
invariant, with a lemma for each kind of step.
-/

namespace GraphBatch

/-- A task at work on a shared store, with the operations that it has made so far. -/
structure Party where
  task : Task
  made : List Operation := []

/-- How many transactions the party has open. -/
def Party.held (party : Party) : Nat :=
  party.made.countP Operation.opens - party.made.countP Operation.closes

/-- The operations of a party are those that its task makes when it is given the replies. -/
def Party.Consistent (party : Party) : Prop := party.task.Makes party.made

namespace Party.Consistent

variable {party : Party}

theorem opens_eq (h : party.Consistent) :
    party.made.countP Operation.opens = party.made.countP Operation.closes + party.held := by
  have le := h.opens_le.1
  unfold held
  omega

theorem held_le (h : party.Consistent) : party.held ≤ 1 := by
  have le := h.opens_le.2
  unfold held
  omega

end Party.Consistent

theorem Party.held_of_finishes {party : Party} (h : party.task.Finishes party.made) : party.held = 0 := by
  rw [held, h.opens_eq, Nat.sub_self]

/-- A store that is shared by transactions opened by hand, on a server that gives them names, and by
tasks. -/
structure Sharing where
  server : Server := {}
  parties : List Party := []
  /-- All operations that the store has answered, in order. -/
  history : List Operation := []
  /-- The number of transactions that were let go unfinished. -/
  dropped : Nat := 0

namespace Sharing

/-- How many transactions are open, by hand and in tasks. -/
def opened (s : Sharing) : Nat :=
  s.server.opened.length + (s.parties.map Party.held).sum

/-- Something is done by hand. -/
def request (s : Sharing) (request : Server.Request) : Sharing :=
  { s with
    server := (s.server.step request).2
    history := s.history ++ (s.server.operation? request).toList
    dropped := s.dropped + (s.server.drops request).toNat }

/-- A task comes to the store. -/
def enter (s : Sharing) (task : Task) : Sharing :=
  { s with parties := s.parties ++ [{ task }] }

/-- The party between the others goes on by some operations, with which the store is as `store`. -/
def advance (s : Sharing) (before : List Party) (party : Party) (after : List Party) (xs : List Operation)
    (store : Store) : Sharing :=
  { s with
    server := { s.server with store }
    parties := before ++ { party with made := party.made ++ xs } :: after
    history := s.history ++ xs }

/-- The party between the others is given up, and lets go what it has open. -/
def cancel (s : Sharing) (before : List Party) (party : Party) (after : List Party) : Sharing :=
  { s with parties := before ++ after, dropped := s.dropped + party.held }

/-- A task comes to the store and has it for itself until it is finished, with `xs`. -/
def perform (s : Sharing) (task : Task) (xs : List Operation) : Sharing :=
  s.advance s.parties { task } [] xs (task.on s.server.store)

/-- The states that a shared store can be in. The tasks go on by one operation at a time, in any order, and
any of them may be given up. -/
inductive Reachable : Sharing → Prop
  | new : Reachable {}
  | request {s : Sharing} (request : Server.Request) : Reachable s → Reachable (s.request request)
  | enter {s : Sharing} (task : Task) : Reachable s → Reachable (s.enter task)
  | advance {s : Sharing} (before after : List Party) {party : Party} {x : Operation} {store : Store} :
      Reachable s → s.parties = before ++ party :: after → party.task.Makes (party.made ++ [x]) →
      s.server.store.Answers₁ x store → Reachable (s.advance before party after [x] store)
  | cancel {s : Sharing} (before after : List Party) {party : Party} :
      Reachable s → s.parties = before ++ party :: after → Reachable (s.cancel before party after)

/-- The log and the open transactions are as the history tells. -/
structure Sound (s : Sharing) : Prop where
  distinct : s.server.Distinct
  consistent : ∀ party ∈ s.parties, party.Consistent
  log : s.server.store.log = Log.enter {} s.history
  balance : s.history.countP Operation.opens =
    s.history.countP Operation.closes + s.opened + s.dropped

namespace Sound

variable {s : Sharing}

theorem new : Sound {} where
  distinct := List.nodup_nil
  consistent _ mem := absurd mem List.not_mem_nil
  log := rfl
  balance := rfl

theorem request (h : s.Sound) (request : Server.Request) : (s.request request).Sound where
  distinct := h.distinct.step request
  consistent := h.consistent
  log := by
    show (s.server.step request).2.store.log = _
    rw [s.server.log_step, h.log, ← Log.enter_append]
    rfl
  balance := by
    have balance := h.balance
    have changed := h.distinct.length_step request
    simp only [Sharing.request, opened, List.countP_append] at balance ⊢
    omega

theorem enter (h : s.Sound) (task : Task) : (s.enter task).Sound where
  distinct := h.distinct
  consistent party mem := by
    rcases List.mem_append.mp mem with mem | mem
    · exact h.consistent party mem
    · obtain rfl := List.mem_singleton.mp mem
      exact task.makes_nil
  log := h.log
  balance := by
    have balance := h.balance
    simp only [Sharing.enter, opened, List.map_append, List.sum_append] at balance ⊢
    exact balance

theorem advance (h : s.Sound) {before after : List Party} {party : Party} {x : Operation} {store : Store}
    (member : s.parties = before ++ party :: after) (makes : party.task.Makes (party.made ++ [x]))
    (answered : s.server.store.Answers₁ x store) : (s.advance before party after [x] store).Sound where
  distinct := h.distinct
  consistent := by
    have consistent := h.consistent
    rw [member, List.forall_mem_append, List.forall_mem_cons] at consistent
    show ∀ other ∈ before ++ _ :: after, other.Consistent
    rw [List.forall_mem_append, List.forall_mem_cons]
    exact ⟨consistent.1, makes, consistent.2.2⟩
  log := by
    show store.log = _
    rw [answered.log, h.log, ← Log.enter_append]
    rfl
  balance := by
    have balance := h.balance
    have held := (h.consistent party (by simp [member])).opens_eq
    have made : Party.Consistent { party with made := party.made ++ [x] } := makes
    have held' := made.opens_eq
    simp only [Sharing.advance, opened, member, List.map_append, List.map_cons, List.sum_append,
      List.sum_cons, List.countP_append] at balance held' ⊢
    omega

theorem cancel (h : s.Sound) {before after : List Party} {party : Party}
    (member : s.parties = before ++ party :: after) : (s.cancel before party after).Sound where
  distinct := h.distinct
  consistent := by
    have consistent := h.consistent
    rw [member, List.forall_mem_append, List.forall_mem_cons] at consistent
    exact List.forall_mem_append.mpr ⟨consistent.1, consistent.2.2⟩
  log := h.log
  balance := by
    have balance := h.balance
    simp only [Sharing.cancel, opened, member, List.map_append, List.map_cons, List.sum_append,
      List.sum_cons] at balance ⊢
    omega

end Sound

variable {s : Sharing}

theorem Reachable.sound (h : s.Reachable) : s.Sound := by
  induction h with
  | new => exact .new
  | request request _ ih => exact ih.request request
  | enter task _ ih => exact ih.enter task
  | advance before after _ member makes answered ih => exact ih.advance member makes answered
  | cancel before after _ member ih => exact ih.cancel member

/-! ## Tasks as a whole -/

theorem advance_nil {before after : List Party} {party : Party}
    (member : s.parties = before ++ party :: after) :
    s.advance before party after [] s.server.store = s := by
  simp only [advance, List.append_nil, ← member]

theorem advance_cons (before after : List Party) (party : Party) (x : Operation) (xs : List Operation)
    (store store' : Store) :
    (s.advance before party after [x] store).advance before { party with made := party.made ++ [x] } after
      xs store' = s.advance before party after (x :: xs) store' := by
  simp only [advance, List.append_assoc, List.singleton_append]

/-- A party may go on for long before it is the turn of another one. -/
theorem Reachable.advance_all (before after : List Party) {party : Party} {xs : List Operation}
    {store : Store} (h : s.Reachable) (member : s.parties = before ++ party :: after)
    (makes : party.task.Makes (party.made ++ xs)) (answers : s.server.store.Answers xs store) :
    (s.advance before party after xs store).Reachable := by
  generalize current : s.server.store = start at answers
  induction answers generalizing s party with
  | nil store =>
    subst current
    rw [advance_nil member]
    exact h
  | cons answered _ ih =>
    subst current
    rw [← List.singleton_append, ← List.append_assoc] at makes
    have one := h.advance before after member makes.of_append answered
    rw [← advance_cons]
    exact ih one rfl makes rfl

/-- A task may have the store for itself, from its first operation to its last. -/
theorem Reachable.perform (h : s.Reachable) (task : Task) :
    ∃ xs, task.Finishes xs ∧ (s.perform task xs).Reachable := by
  obtain ⟨xs, answers, finishes⟩ := task.transcribed s.server.store
  exact ⟨xs, finishes, (h.enter task).advance_all s.parties [] rfl finishes.makes answers⟩

/-- A finished task leaves nothing open. -/
theorem opened_perform {task : Task} {xs : List Operation} (h : task.Finishes xs) :
    (s.perform task xs).opened = s.opened := by
  have held : Party.held { task, made := xs } = 0 := Party.held_of_finishes h
  simp only [perform, advance, opened, List.map_append, List.map_cons, List.map_nil, List.sum_append,
    List.nil_append, held]
  rfl

/-- **Conservation of transactions.** In every state that a shared store can be in, the log counts the
transactions that have begun, the commits that succeeded, and the rollbacks with the commits that failed.
The transactions begun are those that ended in one of these ways, those still open, by hand or in a task, and
those let go unfinished. A task has one transaction open at most and none when it is finished, however its
operations mix with others; and a task that has the store for itself is finished in a state that has as many
transactions open, and as many let go, as the one before it. -/
theorem conservation (h : s.Reachable) :
    let log := s.server.store.log
    log.begun = s.history.countP Operation.opens ∧
      log.committed = s.history.countP Operation.commits ∧
      log.rolledBack = s.history.countP Operation.undoes + s.history.countP Operation.refuses ∧
      log.begun = log.committed + log.rolledBack + s.opened + s.dropped ∧
      log.committed + log.rolledBack ≤ log.begun ∧
      (∀ party ∈ s.parties, party.held ≤ 1 ∧ (party.task.Finishes party.made → party.held = 0)) ∧
      ∀ task : Task, ∃ xs, task.Finishes xs ∧ (s.perform task xs).Reachable ∧
        (s.perform task xs).opened = s.opened ∧ (s.perform task xs).dropped = s.dropped := by
  intro log
  have sound := h.sound
  have begun : log.begun = s.history.countP Operation.opens := by
    show s.server.store.log.begun = _
    rw [sound.log]
    exact Nat.zero_add _
  have committed : log.committed = s.history.countP Operation.commits := by
    show s.server.store.log.committed = _
    rw [sound.log]
    exact Nat.zero_add _
  have rolledBack : log.rolledBack =
      s.history.countP Operation.undoes + s.history.countP Operation.refuses := by
    show s.server.store.log.rolledBack = _
    rw [sound.log]
    exact Nat.zero_add _
  have balance : log.begun = log.committed + log.rolledBack + s.opened + s.dropped := by
    rw [begun, sound.balance, Operation.countP_closes, committed, rolledBack]
  refine ⟨begun, committed, rolledBack, balance, ?_, ?_, ?_⟩
  · omega
  · intro party mem
    exact ⟨(sound.consistent party mem).held_le, Party.held_of_finishes⟩
  · intro task
    obtain ⟨xs, finishes, reachable⟩ := h.perform task
    exact ⟨xs, finishes, reachable, opened_perform finishes, rfl⟩

/-- A run that executes one statement, and may be retried. -/
def greeting : Task :=
  .run { maxRetries := 1 } (fun _ => .inside { text := "greet" } fun reply => .done (reply.map fun _ => (), ()))
    (fun _ => true) .rethrow ()

/-- The run meets a transient fault, and is broken off in its second attempt. -/
def retried : List Operation :=
  [.begin (.ok {}), .inside {} { text := "greet" } (.error (.deadlock "greet")) {}, .rollback {} (.ok ()),
    .begin (.ok {}), .inside {} { text := "greet" } (.ok []) { pending := [{ text := "greet" }] }]

/-- One transaction opened by hand is dropped, one is committed, one is refused and one stays open, while a
task has one rolled back and another one open. -/
theorem conservation_mixed : ∃ s : Sharing, s.Reachable ∧
    s.server.store.log = { begun := 6, committed := 1, rolledBack := 2 } ∧ s.opened = 2 ∧ s.dropped = 1 ∧
    s.server.store.log.begun =
      s.server.store.log.committed + s.server.store.log.rolledBack + s.opened + s.dropped := by
  have begun := ((Reachable.new.request (.begin "a")).request (.switch (.faults 1))).enter greeting
  have makes : greeting.Makes retried := ⟨[], retried.prefix_rfl⟩
  have between := begun.advance_all [] [] rfl makes
    (.cons rfl (.cons rfl (.cons rfl (.cons rfl (.cons rfl (.nil _))))))
  have reachable := (((((((between.request (.drop "a")).request (.begin "b")).request (.commit "b")).request
    (.switch (.rejectCommits true))).request (.begin "c")).request (.commit "c")).request (.begin "d"))
  exact ⟨_, reachable, rfl, rfl, rfl, (conservation reachable).2.2.2.1⟩

end Sharing

end GraphBatch
