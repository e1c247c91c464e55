import GraphBatch.Proofs.Executor.BatchEvents
import GraphBatch.Proofs.Executor.Positions

/-!
# What the log tells of the counters

`Stats.Logged` says how far the counters can be followed in a log: the steps of committed attempts, those of
attempts that were rolled back, and the batches that lost some. Only a batch that ends its execution with a
failure goes unlogged (`Executor.logged_rounds`). The events that close a log are told from all others by how
their messages open (`Event.Closes`).
-/

namespace GraphBatch

variable {θ ω σ τ : Type} [Client ω θ]

/-! ## The counters in the log -/

/-- How far counters can be followed in a log on their way from `s` to `s'`: all of it, but for some steps that
went unlogged. -/
structure Stats.Logged (s : Stats) (events : List Event) (unlogged : Nat) (s' : Stats) : Prop where
  successfulSteps : s'.successfulSteps = s.successfulSteps + (Event.committed events).sum
  totalSteps : s'.totalSteps = s.totalSteps + (Event.committed events).sum + (Event.lost events).sum +
    (Event.rolledBack events).sum + unlogged
  failedBatches : s'.failedBatches =
    s.failedBatches + (Event.lost events).length + (Event.rolledBack events).length

namespace Stats.Logged

variable {s s' s'' : Stats} {events events' : List Event} {n n' : Nat}

theorem nil (s : Stats) : s.Logged [] 0 s := ⟨rfl, rfl, rfl⟩

theorem append (h : s.Logged events n s') (h' : s'.Logged events' n' s'') :
    s.Logged (events ++ events') (n + n') s'' where
  successfulSteps := by
    rw [h'.successfulSteps, h.successfulSteps, Event.committed, Event.numbers_append, List.sum_append,
      Nat.add_assoc]
  totalSteps := by
    have first := h.totalSteps
    have second := h'.totalSteps
    rw [Event.committed, Event.lost, Event.rolledBack] at *
    rw [Event.numbers_append, Event.numbers_append, Event.numbers_append, List.sum_append, List.sum_append,
      List.sum_append]
    omega
  failedBatches := by
    rw [h'.failedBatches, h.failedBatches, Event.lost, Event.rolledBack, Event.numbers_append,
      Event.numbers_append, List.length_append, List.length_append]
    omega

/-- So much the counters grow. -/
theorem growth (h : s.Logged events n s') :
    (s'.successfulSteps : Int) - s.successfulSteps = (Event.committed events).sum ∧
      (s'.totalSteps - s'.successfulSteps : Int) - (s.totalSteps - s.successfulSteps) =
        (Event.lost events ++ Event.rolledBack events).sum + n ∧
      (s'.failedBatches : Int) - s.failedBatches =
        (Event.lost events ++ Event.rolledBack events).length := by
  obtain ⟨successful, total, failed⟩ := h
  rw [List.sum_append, List.length_append]
  omega

end Stats.Logged

/-- The items handed over in the batch that ended the execution with a failure. -/
def Execution.unlogged (e : Execution σ τ ω) : Nat :=
  if e.result.isOk then 0 else (e.batches.getLast?.map (·.deliveries.length)).getD 0

theorem Execution.unlogged_of_ok {e : Execution σ τ ω} {stats : Stats} (ok : e.result = .ok stats) :
    e.unlogged = 0 := by
  rw [unlogged, ok]
  rfl

theorem Execution.unlogged_of_error {e : Execution σ τ ω} {f : Failure} {earlier : List (BatchRecord τ)}
    {last : BatchRecord τ} (failed : e.result = .error f) (batches : e.batches = earlier ++ [last]) :
    e.unlogged = last.deliveries.length := by
  rw [unlogged, failed, batches, List.getLast?_concat]
  rfl

namespace Executor

/-- Of a batch that ends its execution with a failure the steps go unlogged. -/
theorem logged_round (ex : Executor σ τ) (state : σ) (store : ω) (runner : Runner) :
    ex.stats.Logged ((ex.round state store).record.events runner)
      (if (ex.round state store).record.isBroken then (ex.round state store).record.deliveries.length else 0)
      (ex.round state store).executor.stats := by
  have stats : (ex.round state store).executor.stats =
      (ex.round state store).record.conclusion.enter (ex.batch state store).state.stats := rfl
  have drawn := ex.drawn_round state store
  have committed := (ex.round state store).record.committed_events runner
  have lost := (ex.round state store).record.lost_events runner
  have rolledBack := (ex.round state store).record.rolledBack_events runner
  rw [stats, stats_batch, ← drawn, BatchRecord.isBroken]
  have conclusion : (ex.round state store).record.conclusion =
      Conclusion.of (ex.batch state store).state (ex.batch state store).result := rfl
  rcases Conclusion.of_cases (ex.batch state store).state (ex.batch state store).result with
    ⟨none, eq⟩ | ⟨-, -, eq⟩ | ⟨-, ok, eq⟩ | ⟨-, -, eq⟩ <;> rw [eq] at conclusion <;>
      rw [conclusion] at committed lost rolledBack ⊢
  · constructor <;> simp [committed, lost, rolledBack, Conclusion.enter, none]
  · constructor <;> simp [committed, lost, rolledBack, Conclusion.enter]
  · -- Of a committed batch the last attempt is told, and the others only if they drew something.
    have le := ex.attempted_le_drawn state store ok
    by_cases retried : (ex.batch state store).state.attempted < (ex.batch state store).state.drawn
    · constructor <;>
        simp [committed, lost, rolledBack, Conclusion.enter, retried, Nat.add_assoc, Nat.add_sub_of_le le]
    · have same := Nat.le_antisymm le (Nat.le_of_not_lt retried)
      constructor <;> simp [committed, lost, rolledBack, Conclusion.enter, same]
  · constructor <;> simp [committed, lost, rolledBack, Conclusion.enter]

theorem logged_rounds (fuel : Nat) (ex : Executor σ τ) (state : σ) (store : ω) (runner : Runner) :
    ex.stats.Logged ((rounds fuel ex state store).batches.flatMap (BatchRecord.events runner))
      (rounds fuel ex state store).unlogged (rounds fuel ex state store).executor.stats := by
  fun_induction rounds fuel ex state store with
  | case1 ex state store => exact .nil ex.stats
  | case2 fuel ex state store r ending ended =>
    have logged : ex.stats.Logged (r.record.events runner)
        (if r.record.isBroken then r.record.deliveries.length else 0) r.executor.stats :=
      ex.logged_round state store runner
    have broken : r.record.isBroken = (!ending.isOk && r.record.drew) :=
      ex.isBroken_of_ending state store ended
    rw [broken] at logged
    rw [List.flatMap_singleton]
    cases ending with
    | ok => exact logged
    | error e =>
      have unlogged : (if r.record.drew then r.record.deliveries.length else 0) =
          r.record.deliveries.length := by
        rw [BatchRecord.drew]
        cases r.record.deliveries <;> rfl
      rw [Except.isOk, Except.toBool, Bool.not_false, Bool.true_and, unlogged] at logged
      exact logged
  | case3 fuel ex state store r going rest ih =>
    have logged : ex.stats.Logged (r.record.events runner)
        (if r.record.isBroken then r.record.deliveries.length else 0) r.executor.stats :=
      ex.logged_round state store runner
    have whole : r.record.isBroken = false := ex.isBroken_of_going state store going
    have same : ({ rest with batches := r.record :: rest.batches } : Execution σ τ ω).unlogged =
        rest.unlogged := by
      cases ok : rest.result.isOk with
      | true => simp [Execution.unlogged, ok]
      | false =>
        obtain ⟨b, bs, eq⟩ := List.exists_cons_of_ne_nil (batches_ne_nil _ _ _ _ ok)
        simp [Execution.unlogged, ok, rest, eq, List.getLast?_cons_cons]
    rw [whole, if_neg Bool.false_ne_true] at logged
    have both := logged.append ih
    rw [Nat.zero_add] at both
    rw [List.flatMap_cons, same]
    exact both

end Executor

/-! ## Batch by batch -/

/-- In a log that goes on with events of no batch and no attempt, the sections are the batches, and their
attempts are numbered from 1. -/
theorem Event.sections_batches (runner : Runner) (bs : List (BatchRecord τ)) {closing : List Event}
    (quiet : ∀ e ∈ closing, e.startsBatch = false ∧ e.message ≠ "Starting transaction") :
    (sections (bs.flatMap (BatchRecord.events runner) ++ closing)).map attempts =
      bs.map fun b => List.range' 1 b.attempts.length := by
  induction bs with
  | nil =>
    have none : sections closing = [] := by
      have none : sections (closing ++ []) = sections [] := sections_append fun e mem => (quiet e mem).1
      rwa [List.append_nil] at none
    rw [List.flatMap_nil, List.nil_append, none]
    rfl
  | cons b bs ih =>
    let rest := bs.flatMap (BatchRecord.events runner) ++ closing
    have later := b.startsBatch_laterEvents runner
    -- What follows the batch is the start of the next one or the end of the log.
    have upTo : attempts (rest.takeWhile (!·.startsBatch)) = [] := by
      cases bs with
      | nil => exact numbers_eq_nil fun e mem => (quiet e ((List.takeWhile_sublist _).subset mem)).2
      | cons next bs => rfl
    have split : sections ((b :: bs).flatMap (BatchRecord.events runner) ++ closing) =
        (b.laterEvents runner ++ rest.takeWhile (!·.startsBatch)) :: sections rest := by
      rw [List.flatMap_cons, List.append_assoc, BatchRecord.events_eq, List.cons_append, sections,
        if_pos (by rfl), sections_append later, List.takeWhile_append_of_pos fun e mem => by simp [later e mem]]
    have own : attempts (b.laterEvents runner ++ rest.takeWhile (!·.startsBatch)) =
        List.range' 1 b.attempts.length := by
      rw [attempts, numbers_append, ← attempts, upTo, List.append_nil, BatchRecord.attempts_laterEvents]
    rw [split, List.map_cons, List.map_cons, own, ih]

/-! ## The end of a log -/

namespace Event

/-- The message opens with these words. -/
def Opens (words : String) (e : Event) : Prop :=
  words.toList <+: e.message.toList

variable {words message : String} {e : Event}

theorem Opens.ne (opens : e.Opens words) (other : ¬ words.toList <+: message.toList) :
    e.message ≠ message := by
  rintro rfl
  exact other opens

/-- The event closes the log of an execution that has drained its input. -/
def Closes (e : Event) : Prop :=
  e.Opens "Executed " ∨ e.Opens "Failed to execute "

theorem Closes.ne (closes : e.Closes)
    (other : ¬ "Executed ".toList <+: message.toList ∧ ¬ "Failed to execute ".toList <+: message.toList) :
    e.message ≠ message :=
  closes.elim (fun opens => opens.ne other.1) fun opens => opens.ne other.2

end Event

theorem Stats.closes_events (s : Stats) : ∀ e ∈ s.events, e.Closes := by
  intro e mem
  rcases List.mem_cons.mp mem with rfl | mem
  · refine .inl ?_
    simp only [Event.Opens, String.toList_append, List.append_assoc]
    exact List.prefix_append _ _
  · split at mem
    · cases mem
    · obtain rfl := List.mem_singleton.mp mem
      refine .inr ?_
      simp only [Event.Opens, String.toList_append, List.append_assoc]
      exact List.prefix_append _ _

/-- No event of a batch does. -/
theorem BatchRecord.not_closes_events (runner : Runner) (b : BatchRecord τ) :
    ∀ e ∈ b.events runner, ¬ e.Closes := by
  have other : ∀ message ∈ "Starting transaction for batch" :: laterMessages,
      ¬ "Executed ".toList <+: message.toList ∧ ¬ "Failed to execute ".toList <+: message.toList := by
    decide +kernel
  intro e mem closes
  rw [events_eq] at mem
  rcases List.mem_cons.mp mem with rfl | mem
  · exact closes.ne (other _ List.mem_cons_self) rfl
  · exact closes.ne (other _ (List.mem_cons_of_mem _ (b.message_of_mem_laterEvents runner mem))) rfl

/-- First comes the summary, and then a warning if not all steps succeeded. -/
theorem Stats.exists_summary (s : Stats) : ∃ summary later, s.events = summary :: later ∧
    summary.message = s!"Executed {s.successfulSteps} of {s.totalSteps} steps in {s.batches} batches" ∧
    summary.number "successful_steps" = s.successfulSteps ∧ summary.number "total_steps" = s.totalSteps ∧
    summary.number "batches" = s.batches ∧
    later.map (·.message) =
      if s.totalSteps = s.successfulSteps then [] else [s!"Failed to execute {s.failedSteps} steps"] := by
  refine ⟨_, _, rfl, rfl, rfl, rfl, rfl, ?_⟩
  rw [isComplete]
  by_cases complete : s.totalSteps = s.successfulSteps
  · rw [if_pos (beq_iff_eq.mpr complete), if_pos complete]
    rfl
  · rw [if_neg (mt beq_iff_eq.mp complete), if_neg complete]
    rfl

/-- They tell nothing of the steps. -/
theorem Stats.logged_events (s : Stats) : s.Logged s.events 0 s := by
  have committed : Event.committed s.events = [] :=
    Event.numbers_eq_nil fun e mem => (s.closes_events e mem).ne (by decide)
  have lost : Event.lost s.events = [] :=
    Event.numbers_eq_nil fun e mem => (s.closes_events e mem).ne (by decide)
  have rolledBack : Event.rolledBack s.events = [] :=
    Event.numbers_eq_nil fun e mem => (s.closes_events e mem).ne (by decide)
  constructor <;> simp [committed, lost, rolledBack]

namespace Execution

/-- The events after those of the batches. -/
def closing (e : Execution σ τ ω) : List Event :=
  match e.result with
  | .ok stats => stats.events
  | .error _ => []

theorem events_eq (e : Execution σ τ ω) :
    e.events = e.batches.flatMap (BatchRecord.events e.executor.runner) ++ e.closing := rfl

theorem closes_closing (e : Execution σ τ ω) : ∀ event ∈ e.closing, event.Closes := by
  intro event mem
  rw [closing] at mem
  split at mem
  · exact Stats.closes_events _ event mem
  · cases mem

theorem not_closes_batches (e : Execution σ τ ω) :
    ∀ event ∈ e.batches.flatMap (BatchRecord.events e.executor.runner), ¬ event.Closes := by
  intro event mem
  obtain ⟨b, -, mem⟩ := List.mem_flatMap.mp mem
  exact b.not_closes_events _ event mem

/-- The batches of an execution are the sections of its log. -/
theorem sections_events (e : Execution σ τ ω) :
    (Event.sections e.events).map Event.attempts =
      e.batches.map fun b => List.range' 1 b.attempts.length := by
  rw [events_eq]
  refine Event.sections_batches _ _ fun event mem => ?_
  have closes := e.closes_closing event mem
  exact ⟨beq_eq_false_iff_ne.mpr (closes.ne (by decide)), closes.ne (by decide)⟩

end Execution

namespace Executor

theorem stats_of_rounds {fuel : Nat} {ex : Executor σ τ} {state : σ} {store : ω} {stats : Stats}
    (ok : (rounds fuel ex state store).result = .ok stats) :
    stats = (rounds fuel ex state store).executor.stats := by
  fun_induction rounds fuel ex state store with
  | case1 ex state store =>
    cases ok
    rfl
  | case2 fuel ex state store r ending ended =>
    cases ending with
    | ok =>
      cases ok
      rfl
    | error e => cases ok
  | case3 fuel ex state store r going rest ih => exact ih ok

/-- Of an execution nothing goes unlogged but the batch that ends it with a failure. -/
theorem logged_execute (ex : Executor σ τ) (state : σ) (store : ω) :
    ex.stats.Logged (ex.execute state store).events (ex.execute state store).unlogged
      (ex.execute state store).executor.stats := by
  have batches : ex.stats.Logged _ (ex.execute state store).unlogged (ex.execute state store).executor.stats :=
    logged_rounds ex.fuel ex state store (ex.execute state store).executor.runner
  have closing : (ex.execute state store).executor.stats.Logged (ex.execute state store).closing 0
      (ex.execute state store).executor.stats := by
    cases result : (ex.execute state store).result with
    | ok stats =>
      obtain rfl := stats_of_rounds result
      rw [Execution.closing, result]
      exact Stats.logged_events _
    | error e =>
      rw [Execution.closing, result]
      exact .nil _
  exact batches.append closing

/-- **The log and the counters.** In the events of an execution the steps of committed batches make up the
growth of the successful steps, and there is one event of lost or rolled back steps for each batch that is
newly counted as failed. The attempts at each batch are numbered from 1. If the execution ends well, the lost
and rolled back steps make up the growth of the steps that did not succeed, and the log closes with one
summary of the counters returned, followed by a warning unless all steps succeeded. If it ends with a failure,
those of its last batch are missing, and there is no summary. -/
theorem log_accounts_for_stats (ex : Executor σ τ) (state : σ) (store : ω) :
    let call := ex.execute state store
    let log := call.events
    let s := ex.stats
    let s' := call.executor.stats
    let failures := Event.lost log ++ Event.rolledBack log
    (s'.successfulSteps : Int) - s.successfulSteps = (Event.committed log).sum ∧
      (s'.failedBatches : Int) - s.failedBatches = failures.length ∧
      (Event.sections log).map Event.attempts = call.batches.map (fun b => List.range' 1 b.attempts.length) ∧
      (∀ stats, call.result = .ok stats → stats = s' ∧
        (s'.totalSteps - s'.successfulSteps : Int) - (s.totalSteps - s.successfulSteps) = failures.sum ∧
        ∃ earlier summary later, log = earlier ++ summary :: later ∧ (∀ e ∈ earlier, ¬ e.Closes) ∧
          summary.message = s!"Executed {stats.successfulSteps} of {stats.totalSteps} steps in {stats.batches} batches" ∧
          summary.number "successful_steps" = stats.successfulSteps ∧
          summary.number "total_steps" = stats.totalSteps ∧ summary.number "batches" = stats.batches ∧
          later.map (·.message) =
            if stats.totalSteps = stats.successfulSteps then []
            else [s!"Failed to execute {stats.failedSteps} steps"]) ∧
      ∀ e, call.result = .error e → (∀ e ∈ log, ¬ e.Closes) ∧
        ∃ earlier last, call.batches = earlier ++ [last] ∧
          (s'.totalSteps - s'.successfulSteps : Int) - (s.totalSteps - s.successfulSteps) =
            failures.sum + last.deliveries.length := by
  intro call log s s' failures
  obtain ⟨successful, unsuccessful, failed⟩ := (ex.logged_execute state store).growth
  refine ⟨successful, failed, call.sections_events, ?_, ?_⟩
  · intro stats ok
    obtain rfl : stats = s' := stats_of_rounds ok
    rw [Execution.unlogged_of_ok ok] at unsuccessful
    have closing : call.closing = s'.events := by rw [Execution.closing, ok]
    obtain ⟨summary, later, events, told⟩ := s'.exists_summary
    refine ⟨rfl, unsuccessful.trans (Int.add_zero _), call.batches.flatMap
      (BatchRecord.events call.executor.runner), summary, later, ?_, call.not_closes_batches, told⟩
    show call.events = _
    rw [call.events_eq, closing, events]
  · intro e failed
    obtain ⟨earlier, last, batches⟩ : ∃ earlier last, call.batches = earlier ++ [last] := by
      rcases List.eq_nil_or_concat' call.batches with nothing | some
      · exact absurd nothing (batches_ne_nil ex.fuel ex state store (by rw [← execute, failed]; rfl))
      · exact some
    rw [Execution.unlogged_of_error failed batches] at unsuccessful
    refine ⟨?_, earlier, last, batches, unsuccessful⟩
    have closing : call.closing = [] := by rw [Execution.closing, failed]
    show ∀ e ∈ call.events, ¬ e.Closes
    rw [call.events_eq, closing, List.append_nil]
    exact call.not_closes_batches

/-- The first execution loses two steps and ends with a failure in its second batch, whose step goes unlogged;
the second one rolls a batch of two back and sums everything up. -/
theorem log_accounts_for_stats_wavering :
    let first := waveringOver.execute () ({} : Store)
    let second := first.executor.execute () ({} : Store)
    first.result = .error (.connection "lost") ∧ Event.lost first.events = [2] ∧
      Event.rolledBack first.events = [] ∧
      (Event.sections first.events).map Event.attempts = [[1, 2], [1]] ∧
      (∃ earlier last, first.batches = earlier ++ [last] ∧ last.deliveries.length = 1) ∧
      second.result = .ok ⟨8, 4, 3, 2⟩ ∧ Event.rolledBack second.events = [2] ∧
      ∃ summary ∈ second.events, summary.message = "Executed 3 of 8 steps in 4 batches" := by
  intro first second
  have failed : first.result = .error (.connection "lost") := rfl
  have ok : second.result = .ok ⟨8, 4, 3, 2⟩ := Execution.result_eq_ok (by decide +kernel)
  have lost : Event.lost first.events = [2] := by decide +kernel
  have rolledBack : Event.rolledBack first.events = [] := by decide +kernel
  have stats : first.executor.stats = ⟨5, 2, 2, 1⟩ := by decide +kernel
  obtain ⟨-, -, sections, -, broken⟩ := waveringOver.log_accounts_for_stats () ({} : Store)
  obtain ⟨-, -, -, drained, -⟩ := first.executor.log_accounts_for_stats () ({} : Store)
  obtain ⟨-, earlier, last, batches, growth⟩ := broken _ failed
  obtain ⟨-, -, before, summary, later, log, -, message, -⟩ := drained _ ok
  refine ⟨failed, lost, rolledBack, sections.trans (by decide +kernel), ⟨earlier, last, batches, ?_⟩, ok,
    by decide +kernel, summary, ?_, message⟩
  · have fresh : waveringOver.stats = {} := rfl
    rw [stats, lost, rolledBack, fresh] at growth
    change (5 - 2 : Int) - (0 - 0) = 2 + last.deliveries.length at growth
    omega
  · have log : second.events = before ++ summary :: later := log
    rw [log]
    exact List.mem_append_right _ List.mem_cons_self

end Executor

end GraphBatch
