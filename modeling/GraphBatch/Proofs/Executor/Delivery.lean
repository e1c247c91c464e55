import GraphBatch.Proofs.Executor.History

/-!
# Delivery

Over any client, and however its operations and the unit of work fail, the executions of an executor
hand the input over item by item: in order, each item once, and none without a step of its own. An
execution that ends well has handed over all of it.
-/

namespace GraphBatch

variable {θ ω σ τ : Type} [Client ω θ]

namespace Executor

/-- The items handed over in a list of executions. -/
def delivered (calls : List (Execution σ τ ω)) : List τ :=
  (calls.flatMap Execution.deliveries).map (·.invocation.item)

theorem delivered_eq (calls : List (Execution σ τ ω)) : delivered calls =
    ((calls.flatMap (·.batches)).flatMap BatchRecord.deliveries).map (·.invocation.item) := by
  rw [List.flatMap_assoc]
  rfl

/-- What has been handed over, followed by what is left, is what was left before. -/
theorem delivered_append_left {ex : Executor σ τ} (sound : ex.Sound) (entries : List (σ × ω)) :
    delivered (ex.executions entries) ++ (ex.after entries).left = ex.left := by
  rw [delivered_eq]
  exact ((ex.advances_executions entries).left sound).symm

/-- No attempt draws more items than a batch holds. -/
theorem length_deliveries_executions (ex : Executor σ τ) (entries : List (σ × ω)) :
    ∀ call ∈ ex.executions entries, ∀ a ∈ call.attempts, a.deliveries.length ≤ ex.batchSize := by
  intro call mem
  obtain ⟨earlier, later, eq⟩ := List.append_of_mem mem
  obtain ⟨before, state, store, -, rfl⟩ := executions_split eq
  rw [← (ex.advances_executions before).batchSize]
  exact forall_attempts_execute (fun step => Batch.length_deliveries_attempt step)

/-- The calls made of a unit of work in the batches of an execution are the deliveries. -/
theorem calls_rounds {fuel : Nat} {ex : Executor σ τ} {state : σ} {store : ω}
    {calls : σ → List (Invocation τ)} (keeps : ex.work.Keeps ω calls) :
    calls (rounds fuel ex state store).state =
      calls state ++ (rounds fuel ex state store).deliveries.map (·.invocation) := by
  fun_induction rounds fuel ex state store with
  | case1 ex state store => exact (List.append_nil _).symm
  | case2 fuel ex state store r ending ended =>
    rw [Execution.deliveries, List.flatMap_singleton]
    exact Batch.calls_tries keeps (ex.tries_batch state store)
  | case3 fuel ex state store r going rest ih =>
    have first : calls r.state = calls state ++ r.record.deliveries.map (·.invocation) :=
      Batch.calls_tries keeps (ex.tries_batch state store)
    rw [Execution.deliveries, List.flatMap_cons, List.map_append, ← List.append_assoc, ← first]
    exact ih keeps

/-- A cursor that has found its end has no next item. -/
theorem Sound.hasNext_eq_false {ex : Executor σ τ} (sound : ex.Sound) (ended : ex.cursor.ended = true) :
    ex.cursor.hasNext.1 = false :=
  sound.within.hasNext_eq_false_iff.mpr (Cursor.left_of_ended ended _)

/-- The executions up to one that ends well have handed over all that was left. -/
theorem delivered_of_ok {ex : Executor σ τ} (sound : ex.Sound) {before : List (σ × ω)} {state : σ}
    {store : ω} {stats : Stats} (ok : ((ex.after before).execute state store).result = .ok stats) :
    delivered (ex.executions before ++ [(ex.after before).execute state store]) = ex.left := by
  have ended : (ex.after (before ++ [(state, store)])).cursor.ended = true := by
    rw [after_append]
    exact ended_of_execute (sound.after before) ok
  have all := delivered_append_left sound (before ++ [(state, store)])
  rw [left, Cursor.left_of_ended ended, List.append_nil, executions_append] at all
  exact all

/-- **Exactly-once, in-order delivery.** In every history of executions what is handed over is what is
drawn from the cursor, and with the items left it makes up the input; no attempt draws more than a
batch holds; by the end of an execution that ends well all the input has been handed over and the
cursor is exhausted; and the calls that a unit of work gets to see in an execution are the items handed
over in it, each once. -/
theorem delivery_exactly_once {b : Builder σ τ} {items : Sequence τ} {ex : Executor σ τ}
    (built : b.input items = .ok ex) (entries : List (σ × ω)) :
    ex.cursor.Draws (delivered (ex.executions entries)) (ex.after entries).cursor ∧
      delivered (ex.executions entries) ++ (ex.after entries).left = items.toList ∧
      (∀ call ∈ ex.executions entries, ∀ a ∈ call.attempts, a.deliveries.length ≤ ex.batchSize) ∧
      (∀ earlier call later stats, ex.executions entries = earlier ++ call :: later →
        call.result = .ok stats →
        delivered (earlier ++ [call]) = items.toList ∧ call.executor.cursor.hasNext.1 = false) ∧
      ∀ calls, b.work.Keeps ω calls → ∀ (state : σ) (store : ω),
        let e := (ex.after entries).execute state store
        calls e.state = calls state ++ e.deliveries.map (·.invocation) := by
  obtain ⟨sound, left, -⟩ := sound_of_input built
  refine ⟨?_, ?_, ex.length_deliveries_executions entries, ?_, ?_⟩
  · rw [delivered_eq]
    exact (ex.advances_executions entries).draws
  · rw [delivered_append_left sound, left]
  · intro earlier call later stats split ok
    obtain ⟨before, state, store, rfl, rfl⟩ := executions_split split
    constructor
    · rw [delivered_of_ok sound ok, left]
    · exact ((advances_execute _ state store).sound (sound.after before)).hasNext_eq_false
        (ended_of_execute (sound.after before) ok)
  · intro calls keeps state store
    refine calls_rounds ?_
    rwa [(ex.advances_executions entries).work, work_of_input built]

/-- Batches of two items, by a unit of work that keeps the calls made of it and whose second call fails
transiently. -/
def busyOnce : Builder (List (Invocation Nat)) Nat :=
  { work := fun invocation calls =>
      .done (if calls.length = 1 then .error (.transient "busy") else .ok (), calls ++ [invocation])
    config := { batchSize := 2, maxRetries := 1 } }

/-- The executor of these batches over three items. -/
def busyOver : Executor (List (Invocation Nat)) Nat :=
  { work := busyOnce.work
    runner := busyOnce.runner
    batchSize := 2
    cursor := (Sequence.ofList [7, 8, 9]).cursor
    length := 3 }

/-- The item that met the failure is lost with its attempt and not handed over again. -/
theorem delivery_exactly_once_busy : busyOnce.input (.ofList [7, 8, 9]) = .ok busyOver ∧
    (busyOver.execute [] ({} : Store)).result = .ok ⟨3, 1, 1, 1⟩ ∧
    delivered [busyOver.execute [] ({} : Store)] = [7, 8, 9] ∧
    (busyOver.execute [] ({} : Store)).executor.cursor.hasNext.1 = false ∧
    (busyOver.execute [] ({} : Store)).state =
      (busyOver.execute [] ({} : Store)).deliveries.map (·.invocation) := by
  have built : busyOnce.input (.ofList [7, 8, 9]) = .ok busyOver := rfl
  have ok : (busyOver.execute [] ({} : Store)).result = .ok ⟨3, 1, 1, 1⟩ :=
    Execution.result_eq_ok (by decide +kernel)
  have keeps : busyOnce.work.Keeps Store id := fun invocation calls t store => rfl
  obtain ⟨-, -, -, whole, -⟩ := delivery_exactly_once built [([], ({} : Store))]
  obtain ⟨-, -, -, -, seen⟩ := delivery_exactly_once built ([] : List (List (Invocation Nat) × Store))
  obtain ⟨all, exhausted⟩ := whole [] (busyOver.execute [] {}) [] _ rfl ok
  rw [List.nil_append, Sequence.toList_ofList] at all
  refine ⟨built, ok, all, exhausted, ?_⟩
  exact seen id keeps [] {}

end Executor

end GraphBatch
