import GraphBatch.Proofs.Executor.Healthy
import GraphBatch.Simulation

/-!
# What a simulation comes to

A simulation starts with a healthy store, and its unit of work does one of two things to an item
(`meets_work`): it rejects it, or it sends the statement that creates it. So the simulation goes by chunks,
and its report and its journal are functions of the items (`execute_eq`).
-/

namespace GraphBatch

namespace Simulation

/-- The statement that writes an item at its position. -/
def creation (item : Json) (batch step : Nat) : Statement :=
  { text := "CREATE (n:Item \x7bpayload: $payload, batch: $batch, step: $step\x7d)"
    params := [("batch", .int batch), ("payload", item), ("step", .int step)] }

/-- Some item of the chunk is rejected, and with it the whole chunk. -/
def dooms (rejected : Option Json) (chunk : List Json) : Bool :=
  chunk.any fun item => rejected == some item

/-- The items of the chunks that are not doomed. -/
def kept (size : Nat) (rejected : Option Json) (items : List Json) : List Json :=
  ((chunks size items).filter fun chunk => !dooms rejected chunk).flatten

/-- The statements that write these items, where an item is the `i`-th of the input. -/
def written (size : Nat) (rejected : Option Json) (items : List Json) : List Statement :=
  ((chunks size (items.zipIdx 1)).filter fun chunk => !dooms rejected (chunk.map (·.1))).flatten.map
    fun (item, i) => creation item (i ⌈/⌉ size) ((i - 1) % size + 1)

/-- What is made of an item. -/
def Handled (rejected : Option Json) (d : Delivery Json) : Prop :=
  if rejected == some d.invocation.item then
    d.result = .error (.rejectedItem d.invocation.item.compact) ∧ d.account = {}
  else
    d.result = .ok () ∧
      d.account =
        { inside := [creation d.invocation.item d.invocation.batch d.invocation.step] }

/-! ## The unit of work -/

/-- The query names its parameters in another order than the statement lists them. -/
theorem statement_creation (item : Json) (batch step : Nat) :
    ((Query.new createItem).withParams
      [("payload", .ok item), ("batch", .ok (.int batch)), ("step", .ok (.int step))]).statement =
      .ok (creation item batch step) := by
  have before : "batch" < "payload" := by decide
  have after : ¬ "step" < "payload" ∧ ¬ "step" < "batch" := by decide
  simp [Query.withParams, Query.new, Query.param, Query.statement, Fields.insert, creation, createItem, before,
    after]

theorem work_of_rejected {rejected : Option Json} {inv : Invocation Json}
    (hit : (rejected == some inv.item) = true) (state : Unit) :
    work rejected inv state = .done (.error (.rejectedItem inv.item.compact), state) := by
  simp only [work, if_pos hit]
  rfl

theorem work_of_accepted {rejected : Option Json} {inv : Invocation Json}
    (miss : ¬ (rejected == some inv.item) = true) (state : Unit) :
    work rejected inv state =
      .inside (creation inv.item inv.batch inv.step) fun reply =>
        .done (reply.map fun _ => (), state) := by
  simp only [work, if_neg miss, Query.run, statement_creation]
  rfl

/-- On a healthy store an item is handled as it should be, and the store is left alone. -/
theorem meets_work (rejected : Option Json) : (work rejected).Meets (Handled rejected) := by
  intro inv state t store healthy
  unfold Handled
  by_cases hit : (rejected == some inv.item) = true
  · rw [work_of_rejected hit, if_pos hit]
    exact ⟨healthy, rfl, rfl⟩
  · rw [work_of_accepted hit, if_neg hit, Program.run, Store.client_inside, healthy.inside]
    exact ⟨healthy, rfl, rfl⟩

theorem confined_work (rejected : Option Json) : (work rejected).Confined := by
  intro inv state
  by_cases hit : (rejected == some inv.item) = true
  · rw [work_of_rejected hit]
    exact .done _
  · rw [work_of_accepted hit]
    exact .inside _ fun reply => .done _

namespace Handled

variable {rejected : Option Json} {d : Delivery Json} (h : Handled rejected d)
include h

theorem storeFailure? : d.storeFailure? = none := by
  refine Delivery.storeFailure?_eq_none.mpr fun e failed => ?_
  unfold Handled at h
  split at h
  · rw [h.1] at failed
    cases failed
    rfl
  · rw [h.1] at failed
    cases failed

theorem isOk : d.result.isOk = !(rejected == some d.invocation.item) := by
  unfold Handled at h
  split at h
  · rename_i hit
    rw [h.1, hit]
    rfl
  · rename_i miss
    rw [h.1, Bool.eq_false_iff.mpr miss]
    rfl

theorem inside_of_isOk (ok : d.result.isOk = true) : d.account.inside =
    [creation d.invocation.item d.invocation.batch d.invocation.step] := by
  unfold Handled at h
  split at h
  · rw [h.1] at ok
    cases ok
  · rw [h.2]

end Handled

/-- A chunk fails exactly if it is doomed. -/
theorem clean_eq_not_dooms {rejected : Option Json} {chunk : List (Delivery Json)}
    (handled : ∀ d ∈ chunk, Handled rejected d) :
    Batch.clean chunk = !dooms rejected (chunk.map (·.invocation.item)) := by
  have accepted : ∀ d ∈ chunk, d.result.isOk = !(rejected == some d.invocation.item) :=
    fun d mem => (handled d mem).isOk
  calc
    Batch.clean chunk = (chunk.map (·.result.isOk)).all id := by
      rw [List.all_map]
      rfl
    _ = (chunk.map fun d => !(rejected == some d.invocation.item)).all id := by
      rw [List.map_congr_left accepted]
    _ = !dooms rejected (chunk.map (·.invocation.item)) := by
      rw [dooms, List.any_map, List.not_any_eq_all_not, List.all_map]
      rfl

theorem filter_clean_chunks {rejected : Option Json} {deliveries : List (Delivery Json)}
    (handled : ∀ d ∈ deliveries, Handled rejected d) (size : Nat) :
    (chunks size deliveries).filter Batch.clean =
      (chunks size deliveries).filter fun chunk => !dooms rejected (chunk.map (·.invocation.item)) :=
  List.filter_congr fun _ mem =>
    clean_eq_not_dooms fun d inside => handled d (mem_of_mem_chunks mem inside)

/-! ## The execution -/

variable {ex : Executor Unit Json} {e : Execution Unit Json} {rejected : Option Json}
  {items : List Json}

/-- Of a new executor the items and their positions are those of the input counted from 1. -/
theorem map_placed (chunked : ex.Chunked e) (fresh : ex.stats = {}) (left : ex.left = items) :
    e.deliveries.map (fun d => (d.invocation.item, d.invocation.batch, d.invocation.step)) =
      (items.zipIdx 1).map fun (item, i) =>
        (item, i ⌈/⌉ ex.batchSize, (i - 1) % ex.batchSize + 1) := by
  obtain rfl : e.deliveries.map (·.invocation.item) = items := chunked.items.trans left
  refine List.ext_getElem? fun i => ?_
  rw [List.getElem?_map, List.getElem?_map, List.getElem?_zipIdx, List.getElem?_map]
  cases at_i : e.deliveries[i]? with
  | none => rfl
  | some d =>
    obtain ⟨batch, step⟩ := chunked.positions i at_i
    rw [fresh] at batch
    simp [batch, step, Nat.add_comm 1 i]

/-- The chunks of which no item fails hold the items that are kept. -/
theorem map_item_clean (chunked : ex.Chunked e) (left : ex.left = items)
    (handled : ∀ d ∈ e.deliveries, Handled rejected d) :
    ((chunks ex.batchSize e.deliveries).filter Batch.clean).flatten.map (·.invocation.item) =
      kept ex.batchSize rejected items := by
  rw [kept, ← left, ← chunked.items, ← map_flatten_filter_chunks, filter_clean_chunks handled]

/-- Their statements are the ones that are written. -/
theorem inside_clean (chunked : ex.Chunked e) (fresh : ex.stats = {}) (left : ex.left = items)
    (handled : ∀ d ∈ e.deliveries, Handled rejected d) :
    Batch.inside ((chunks ex.batchSize e.deliveries).filter Batch.clean).flatten =
      written ex.batchSize rejected items := by
  let place (d : Delivery Json) : Json × Nat × Nat :=
    (d.invocation.item, d.invocation.batch, d.invocation.step)
  let accepted (chunk : List (Json × Nat × Nat)) : Bool := !dooms rejected (chunk.map (·.1))
  have placed : e.deliveries.map place = _ := map_placed chunked fresh left
  have sent : ∀ d ∈ ((chunks ex.batchSize e.deliveries).filter Batch.clean).flatten,
      d.account.inside = [creation (place d).1 (place d).2.1 (place d).2.2] := by
    intro d mem
    obtain ⟨chunk, mem, inside⟩ := List.mem_flatten.mp mem
    obtain ⟨mem, clean⟩ := List.mem_filter.mp mem
    exact (handled d (mem_of_mem_chunks mem inside)).inside_of_isOk (List.all_eq_true.mp clean d inside)
  have clean : (chunks ex.batchSize e.deliveries).filter Batch.clean =
      (chunks ex.batchSize e.deliveries).filter fun chunk => accepted (chunk.map place) := by
    rw [filter_clean_chunks handled]
    simp only [accepted, List.map_map]
    rfl
  calc
    Batch.inside ((chunks ex.batchSize e.deliveries).filter Batch.clean).flatten
      = (((chunks ex.batchSize e.deliveries).filter Batch.clean).flatten.map place).map
          fun (item, batch, step) => creation item batch step := by
        rw [Batch.inside, List.flatMap_congr sent, ← List.map_eq_flatMap, List.map_map]
        rfl
    _ = ((chunks ex.batchSize (e.deliveries.map place)).filter accepted).flatten.map
          fun (item, batch, step) => creation item batch step := by
        rw [clean, map_flatten_filter_chunks]
    _ = written ex.batchSize rejected items := by
        rw [placed, ← map_flatten_filter_chunks, List.map_map, written]
        simp only [accepted, List.map_map]
        rfl

/-! ## The report -/

theorem length_written (size : Nat) (rejected : Option Json) (items : List Json) :
    (written size rejected items).length = (kept size rejected items).length := by
  have unplaced : (items.zipIdx 1).map (·.1) = items := List.zipIdx_map_fst 1 items
  rw [kept, written, List.length_map]
  conv_rhs => rw [← unplaced, ← map_flatten_filter_chunks, List.length_map]

/-- The report on a simulation of these items in batches of this size. -/
def summary (size : Nat) (rejected : Option Json) (items : List Json) : Report :=
  { batchSize := size
    stats :=
      { totalSteps := items.length
        batches := items.length ⌈/⌉ size
        successfulSteps := (kept size rejected items).length
        failedBatches := (chunks size items).countP (dooms rejected) }
    committedStatements := (kept size rejected items).length }

/-- An executor of the simulation's unit of work, executed over a new store, leaves just these statements
and this report. -/
theorem execute_eq (reachable : ex.Reachable Store) (work_eq : ex.work = work rejected)
    (fresh : ex.stats = {}) (left : ex.left = items) :
    let e := ex.execute () ({} : Store)
    e.store.journal = written ex.batchSize rejected items ∧
      reportOf e = .ok (summary ex.batchSize rejected items) := by
  intro e
  have sound := reachable.sound
  obtain ⟨accepted, handled⟩ :=
    Executor.healthy_execute (work_eq ▸ meets_work rejected) () Store.Healthy.new
  have chunked : ex.Chunked e :=
    Executor.chunked_execute sound accepted fun d mem => (handled d mem).storeFailure?
  have journal : e.store.journal = written ex.batchSize rejected items := by
    rw [(ex.books_execute () ({} : Store)).journal,
      Executor.journaled_execute (work_eq ▸ confined_work rejected), chunked.kept,
      inside_clean chunked fresh left handled]
    rfl
  have stats : e.executor.stats = (summary ex.batchSize rejected items).stats := by
    have unbroken := (Executor.countP_isBroken_rounds ex.fuel ex () ({} : Store)).trans
      (if_neg (Bool.eq_false_iff.mp (Execution.isBroken_of_ok chunked.result)))
    have successful : ((chunks ex.batchSize e.deliveries).filter Batch.clean).flatten.length =
        (kept ex.batchSize rejected items).length := by
      rw [← map_item_clean chunked left handled, List.length_map]
    have failed : ((chunks ex.batchSize e.deliveries).filter (!Batch.clean ·)).length =
        (chunks ex.batchSize items).countP (dooms rejected) := by
      rw [← left, ← chunked.items, chunks_map, List.countP_map, ← List.countP_eq_length_filter]
      refine List.countP_congr fun chunk mem => ?_
      rw [clean_eq_not_dooms fun d inside => handled d (mem_of_mem_chunks mem inside), Bool.not_not]
      rfl
    rw [chunked.stats (ex.advances_execute () ({} : Store)) sound.size unbroken, fresh, left,
      successful, failed]
    simp [summary]
  refine ⟨journal, ?_⟩
  have size : e.executor.batchSize = ex.batchSize := (ex.advances_execute () ({} : Store)).batchSize
  rw [reportOf, chunked.result, journal, length_written, stats, size]
  rfl

end Simulation

end GraphBatch
