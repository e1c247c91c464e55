import GraphBatch.Builder

/-!
# Simulations

A simulation drains a list of items through the batch executor into a fresh store. Each item is
written as one node, and an item that equals the rejected one fails its unit of work.
-/

namespace GraphBatch

structure Simulation where
  items : List Json
  rejected : Option Json := none
  settings : List Builder.Setting := []

/-- What a simulation came to. -/
structure Simulation.Report where
  batchSize : Nat
  stats : Stats
  committedStatements : Nat
deriving Repr, DecidableEq

namespace Simulation

def createItem : String :=
  "CREATE (n:Item \x7bpayload: $payload, batch: $batch, step: $step\x7d)"

/-- Writes an item, unless it is the rejected one. -/
def work (rejected : Option Json) : UnitOfWork Unit Json := fun inv state => do
  if rejected == some inv.item then return (.error (.rejectedItem inv.item.compact), state)
  let query := (Query.new createItem).withParams
    [("payload", .ok inv.item), ("batch", .ok (.int inv.batch)), ("step", .ok (.int inv.step))]
  return (← query.run Program.transaction, state)

def executor (sim : Simulation) : Except Failure (Executor Unit Json) :=
  (Builder.withSettings { work := work sim.rejected } sim.settings).input (.ofList sim.items)

/-- The execution over a fresh store, unless the settings allow none. -/
def execution (sim : Simulation) : Except Failure (Execution Unit Json) :=
  sim.executor.map fun executor => executor.execute () ({} : Store)

def reportOf (execution : Execution Unit Json) : Except Failure Report :=
  execution.result.map fun stats =>
    { batchSize := execution.executor.batchSize
      stats
      committedStatements := execution.store.journal.length }

/-- The report of a simulation, with the events of its execution. -/
def run (sim : Simulation) : Except Failure Report × List Event :=
  match sim.execution with
  | .error e => (.error e, [])
  | .ok execution => (reportOf execution, execution.events)

def Report.toJson (r : Report) : Json :=
  .ofPairs
    [("batch_size", .int r.batchSize), ("stats", .ofPairs r.stats.fields),
      ("failed_steps", .int r.stats.failedSteps), ("committed_statements", .int r.committedStatements)]

end Simulation

end GraphBatch
