import GraphBatch.Json.Printer

/-!
# Execution statistics

The four counters of a batch execution: units of work started, batches that drew an item, units
whose batch committed, and batches with a drawn item that did not commit.
-/

namespace GraphBatch

@[ext]
structure Stats where
  totalSteps : Nat := 0
  batches : Nat := 0
  successfulSteps : Nat := 0
  failedBatches : Nat := 0
deriving Repr, DecidableEq

namespace Stats

def failedSteps (s : Stats) : Nat :=
  s.totalSteps - s.successfulSteps

def isComplete (s : Stats) : Bool :=
  s.totalSteps == s.successfulSteps

def toList (s : Stats) : List Nat :=
  [s.totalSteps, s.batches, s.successfulSteps, s.failedBatches]

/-- The counters by name, in the order in which they are declared. -/
def fields (s : Stats) : List (String × Json) :=
  [("total_steps", .int s.totalSteps), ("batches", .int s.batches),
    ("successful_steps", .int s.successfulSteps), ("failed_batches", .int s.failedBatches)]

def text (s : Stats) : String :=
  (Json.object s.fields).compact

end Stats

end GraphBatch
