import GraphBatch.Proofs.Executor.Advance

/-!
# The events of a batch

A log is read by the messages of its events and the numbers in their fields. After the start of a batch come
the events of its attempts, of which `Runner.attempts_events` gives the numbers, and those of its conclusion,
which alone tell of steps (`BatchRecord.numbers_events`). The messages are all known, so that no event is taken
for one of another kind.
-/

namespace GraphBatch

variable {τ : Type}

/-! ## Reading a log -/

namespace Event

/-- The number in a field of the event, 0 if it has no such field. -/
def number (field : String) (e : Event) : Nat :=
  match e.fields.lookup field with
  | some (.int n) => n.toNat
  | _ => 0

/-- The numbers in a field of the events with the given message, in order. -/
def numbers (message field : String) (events : List Event) : List Nat :=
  (events.filter (·.message == message)).map (number field)

/-- The steps of each batch that was committed, in its last attempt. -/
def committed : List Event → List Nat :=
  numbers "Committed transaction for batch" "attempted"

/-- The steps of each batch that was committed, in attempts before the last one. -/
def lost : List Event → List Nat :=
  numbers "Steps of a retried attempt were rolled back" "lost"

/-- The steps of each batch that was rolled back. -/
def rolledBack : List Event → List Nat :=
  numbers "Rolled back transaction for batch" "drawn"

/-- The numbers of the attempts that were started. -/
def attempts : List Event → List Nat :=
  numbers "Starting transaction" "attempt"

def startsBatch (e : Event) : Bool :=
  e.message == "Starting transaction for batch"

/-- The events after each start of a batch, up to the next one. -/
def sections : List Event → List (List Event)
  | [] => []
  | e :: rest => if e.startsBatch then rest.takeWhile (!·.startsBatch) :: sections rest else sections rest

variable {message field : String} {events events' : List Event}

theorem numbers_append : numbers message field (events ++ events') =
    numbers message field events ++ numbers message field events' := by
  rw [numbers, List.filter_append, List.map_append]
  rfl

theorem numbers_flatMap {α : Type} (xs : List α) (f : α → List Event) :
    numbers message field (xs.flatMap f) = xs.flatMap fun x => numbers message field (f x) := by
  rw [numbers, List.filter_flatMap, List.map_flatMap]
  rfl

theorem numbers_eq_nil (other : ∀ e ∈ events, e.message ≠ message) : numbers message field events = [] := by
  rw [numbers, List.filter_eq_nil_iff.mpr fun e mem => by simpa using other e mem]
  rfl

theorem sections_append (quiet : ∀ e ∈ events, e.startsBatch = false) :
    sections (events ++ events') = sections events' := by
  induction events with
  | nil => rfl
  | cons e events ih =>
    rw [List.cons_append, sections, quiet e List.mem_cons_self]
    exact ih fun e mem => quiet e (List.mem_cons_of_mem _ mem)

end Event

/-! ## The events of a batch -/

/-- The messages of an attempt at a batch, after its start. -/
def Batch.laterMessages : List String :=
  ["Unit of work failed, batch will roll back", "Committed transaction",
    "Result not accepted, rolled back transaction", "Transient failure, retrying transaction",
    "Rolled back transaction"]

theorem Batch.message_of_mem_events {record : List (Delivery τ)} {e : Event}
    (mem : e ∈ Batch.events record) : e.message ∈ Batch.laterMessages := by
  obtain ⟨d, -, mem⟩ := List.mem_flatMap.mp mem
  split at mem
  · cases mem
  · split at mem
    · cases mem
    · obtain rfl := List.mem_singleton.mp mem
      simp [laterMessages]

namespace Runner

variable {runner : Runner} {number : Nat} {e : Event}

theorem message_of_mem_closing {ending : Ending Unit}
    (mem : e ∈ attemptEvents.closing runner .carryOn number ending) : e.message ∈ Batch.laterMessages := by
  cases ending with
  | committed | declined =>
    obtain rfl := List.mem_singleton.mp mem
    simp [Batch.laterMessages]
  | commitFailed | rollbackFailed => cases mem
  | rolledBack f =>
    rw [attemptEvents.closing] at mem
    split at mem
    · obtain rfl := List.mem_singleton.mp mem
      simp [Batch.laterMessages]
    · split at mem
      · obtain rfl := List.mem_singleton.mp mem
        simp [Batch.laterMessages]
      · cases mem

/-- An attempt at a batch tells its start first and does not tell it again. -/
theorem attemptEvents_eq (runner : Runner) (number : Nat) (a : Attempt (List (Delivery τ)) Unit) :
    ∃ later, runner.attemptEvents .carryOn Batch.events number a = attemptEvents.starting number :: later ∧
      ∀ e ∈ later, e.message ∈ Batch.laterMessages := by
  cases a with
  | unbegun e => exact ⟨[], rfl, by simp⟩
  | ended record ending =>
    refine ⟨_, rfl, fun e mem => ?_⟩
    rcases List.mem_append.mp mem with within | closing
    · exact Batch.message_of_mem_events within
    · exact message_of_mem_closing closing

theorem attempts_attemptEvents (a : Attempt (List (Delivery τ)) Unit) :
    Event.attempts (runner.attemptEvents .carryOn Batch.events number a) = [number] := by
  obtain ⟨later, eq, messages⟩ := runner.attemptEvents_eq number a
  have quiet : Event.attempts later = [] := by
    have other : ∀ message ∈ Batch.laterMessages, message ≠ "Starting transaction" := by decide
    exact Event.numbers_eq_nil fun e mem => other _ (messages e mem)
  rw [eq, ← List.singleton_append, Event.attempts, Event.numbers_append, ← Event.attempts, quiet]
  rfl

/-- The attempts at a batch are told one by one, numbered from 1. -/
theorem attempts_events (as : List (Attempt (List (Delivery τ)) Unit)) :
    Event.attempts (runner.events .carryOn Batch.events as) = List.range' 1 as.length := by
  rw [events, Event.attempts, Event.numbers_flatMap]
  calc
    (as.zipIdx 1).flatMap (fun a => Event.attempts (runner.attemptEvents .carryOn Batch.events a.2 a.1)) =
        (as.zipIdx 1).flatMap fun a => [a.2] := List.flatMap_congr fun a _ => attempts_attemptEvents a.1
    _ = List.range' 1 as.length := by rw [← List.map_eq_flatMap, List.zipIdx_map_snd]

theorem message_of_mem_events {as : List (Attempt (List (Delivery τ)) Unit)}
    (mem : e ∈ runner.events .carryOn Batch.events as) :
    e.message ∈ "Starting transaction" :: Batch.laterMessages := by
  obtain ⟨⟨a, number⟩, -, mem⟩ := List.mem_flatMap.mp mem
  obtain ⟨later, eq, messages⟩ := runner.attemptEvents_eq number a
  change e ∈ runner.attemptEvents .carryOn Batch.events number a at mem
  rw [eq] at mem
  rcases List.mem_cons.mp mem with rfl | mem
  · exact List.mem_cons_self
  · exact List.mem_cons_of_mem _ (messages e mem)

end Runner

/-- The messages of the conclusion of a batch. -/
def Conclusion.messages : List String :=
  ["Committed transaction for batch", "Steps of a retried attempt were rolled back",
    "Rolled back transaction for batch"]

namespace BatchRecord

variable (runner : Runner) (b : BatchRecord τ)

theorem message_of_mem_conclusion {conclusion : Conclusion} {e : Event}
    (mem : e ∈ events.conclusion b conclusion) : e.message ∈ Conclusion.messages := by
  cases conclusion with
  | empty | broken => cases mem
  | rolledBack drawn =>
    obtain rfl := List.mem_singleton.mp mem
    simp [Conclusion.messages]
  | committed attempted drawn =>
    rw [events.conclusion] at mem
    rcases List.mem_cons.mp mem with rfl | mem
    · exact List.mem_cons_self
    · split at mem
      · obtain rfl := List.mem_singleton.mp mem
        simp [Conclusion.messages]
      · cases mem

/-- The messages of a batch after its start. -/
def laterMessages : List String :=
  "Starting transaction" :: Batch.laterMessages ++ Conclusion.messages

/-- The events of a batch after its start. -/
def laterEvents : List Event :=
  runner.events .carryOn Batch.events b.attempts ++ events.conclusion b b.conclusion

theorem events_eq : b.events runner =
    ⟨.trace, "Starting transaction for batch", [events.number b]⟩ :: b.laterEvents runner := rfl

theorem message_of_mem_laterEvents {e : Event} (mem : e ∈ b.laterEvents runner) :
    e.message ∈ laterMessages := by
  rcases List.mem_append.mp mem with attempted | concluded
  · exact List.mem_append_left _ (Runner.message_of_mem_events attempted)
  · exact List.mem_append_right _ (message_of_mem_conclusion b concluded)

/-- After its start a batch is not told to start. -/
theorem startsBatch_laterEvents : ∀ e ∈ b.laterEvents runner, e.startsBatch = false := by
  have other : ∀ message ∈ laterMessages, (message == "Starting transaction for batch") = false := by decide
  exact fun e mem => other _ (message_of_mem_laterEvents runner b mem)

theorem attempts_laterEvents :
    Event.attempts (b.laterEvents runner) = List.range' 1 b.attempts.length := by
  have quiet : Event.attempts (events.conclusion b b.conclusion) = [] := by
    have other : ∀ message ∈ Conclusion.messages, message ≠ "Starting transaction" := by decide
    exact Event.numbers_eq_nil fun e mem => other _ (message_of_mem_conclusion b mem)
  rw [laterEvents, Event.attempts, Event.numbers_append, ← Event.attempts, quiet, List.append_nil,
    Runner.attempts_events]

/-- A message that is no other in the events of a batch is told with its conclusion. -/
theorem numbers_events {message : String} (field : String)
    (other : message ∉
      "Starting transaction for batch" :: "Starting transaction" :: Batch.laterMessages) :
    Event.numbers message field (b.events runner) =
      Event.numbers message field (events.conclusion b b.conclusion) := by
  have quiet : ∀ e ∈ [⟨.trace, "Starting transaction for batch", [events.number b]⟩] ++
      runner.events .carryOn Batch.events b.attempts, e.message ≠ message := by
    intro e mem same
    refine other ?_
    rw [← same]
    rcases List.mem_append.mp mem with start | within
    · obtain rfl := List.mem_singleton.mp start
      exact List.mem_cons_self
    · exact List.mem_cons_of_mem _ (Runner.message_of_mem_events within)
  have split : b.events runner = ([⟨.trace, "Starting transaction for batch", [events.number b]⟩] ++
      runner.events .carryOn Batch.events b.attempts) ++ events.conclusion b b.conclusion := rfl
  rw [split, Event.numbers_append, Event.numbers_eq_nil quiet, List.nil_append]

theorem committed_events : Event.committed (b.events runner) =
    match b.conclusion with
    | .committed attempted _ => [attempted]
    | _ => [] := by
  rw [Event.committed, numbers_events runner b _ (by decide)]
  cases b.conclusion with
  | committed attempted drawn =>
    rw [events.conclusion]
    split <;> rfl
  | empty | rolledBack | broken => rfl

theorem lost_events : Event.lost (b.events runner) =
    match b.conclusion with
    | .committed attempted drawn => if attempted < drawn then [drawn - attempted] else []
    | _ => [] := by
  rw [Event.lost, numbers_events runner b _ (by decide)]
  cases b.conclusion with
  | committed attempted drawn =>
    by_cases lost : attempted < drawn
    · simp only [events.conclusion, if_pos lost]
      rfl
    · simp only [events.conclusion, if_neg lost]
      rfl
  | empty | rolledBack | broken => rfl

theorem rolledBack_events : Event.rolledBack (b.events runner) =
    match b.conclusion with
    | .rolledBack drawn => [drawn]
    | _ => [] := by
  rw [Event.rolledBack, numbers_events runner b _ (by decide)]
  cases b.conclusion with
  | committed attempted drawn =>
    rw [events.conclusion]
    split <;> rfl
  | empty | rolledBack | broken => rfl

end BatchRecord

end GraphBatch
