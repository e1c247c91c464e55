import GraphBatch.Json.Printer

/-!
# Configuration

The settings of the program with their built-in defaults.
-/

namespace GraphBatch

structure ExecutorConfig where
  /-- Units of work in one transaction, at least 1. -/
  batchSize : Nat := 1000
  /-- How often a batch is run again after a transient failure. -/
  maxRetries : Nat := 0
deriving Repr, DecidableEq

structure LoggingConfig where
  level : String := "info"
deriving Repr, DecidableEq

structure Config where
  executor : ExecutorConfig := {}
  logging : LoggingConfig := {}
deriving Repr, DecidableEq

def Config.toJson (c : Config) : Json :=
  .object
    [("executor", .object
        [("batch_size", .int c.executor.batchSize), ("max_retries", .int c.executor.maxRetries)]),
      ("logging", .object [("level", .string c.logging.level)])]

end GraphBatch
