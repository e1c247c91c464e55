import GraphBatch.Config
import GraphBatch.Config.Error
import GraphBatch.Width

/-!
# Reading the configuration out of settings

A section is a table, or a list that gives its fields in order; what a section leaves out has its
default. Unknown names are ignored. The sections and their fields are read in name order, and the
first that does not decode is reported.
-/

namespace GraphBatch.Config

/-- A natural number below `bound`. -/
def natural (expected : String) (bound : Nat) (path : List String) (value : Value) :
    Except Error Nat :=
  let fail (outOfRange : Bool) : Except Error Nat :=
    .error (.mismatch { outOfRange, found := value.found, expected, path, source := value.source })
  match value with
  | .scalar _ (.signed n) => if 0 ≤ n ∧ n < bound then .ok n.toNat else fail true
  | .scalar _ (.unsigned n) => if n < bound then .ok n else fail true
  | _ => fail false

def size : List String → Value → Except Error Nat :=
  natural "usize" (Width.bound 64)

def count : List String → Value → Except Error Nat :=
  natural "u32" (Width.bound 32)

def text (path : List String) (value : Value) : Except Error String :=
  match value with
  | .scalar _ (.string s) => .ok s
  | .scalar _ (.char c) => .ok (String.singleton c)
  | _ =>
    .error (.mismatch
      { outOfRange := false, found := value.found, expected := "a string", path, source := value.source })

/-- A field that may be missing. -/
def field {α : Type} (decode : List String → Value → Except Error α) (default : α) (path : List String) :
    Option Value → Except Error α
  | none => .ok default
  | some value => decode path value

/-- The fields of a section by name, or by position with their index in the path. -/
def fieldOf (path : List String) (value : Value) (name : String) (index : Nat) :
    List String × Option Value :=
  match value with
  | .table _ fields => (path ++ [name], Fields.get? fields name)
  | .list _ items => (path ++ [toString index], items[index]?)
  | .scalar _ _ => (path, none)

/-- Fails for a value that is neither a table nor a list. -/
def checkSection (expected : String) (path : List String) (value : Value) : Except Error Unit :=
  match value with
  | .scalar source _ =>
    .error (.mismatch { outOfRange := false, found := value.found, expected, path, source })
  | _ => .ok ()

def executorSection (path : List String) (value : Value) : Except Error ExecutorConfig := do
  checkSection "struct ExecutorConfig" path value
  let (sizePath, size?) := fieldOf path value "batch_size" 0
  let batchSize ← field size ({} : ExecutorConfig).batchSize sizePath size?
  let (countPath, count?) := fieldOf path value "max_retries" 1
  let maxRetries ← field count ({} : ExecutorConfig).maxRetries countPath count?
  return { batchSize, maxRetries }

def loggingSection (path : List String) (value : Value) : Except Error LoggingConfig := do
  checkSection "struct LoggingConfig" path value
  let (levelPath, level?) := fieldOf path value "level" 0
  let level ← field text ({} : LoggingConfig).level levelPath level?
  return { level }

/-- The configuration that the merged settings give. -/
def ofValue (settings : Value) : Except Error Config := do
  let entry (name : String) : Option Value := match settings with
    | .table _ fields => Fields.get? fields name
    | _ => none
  let executor ← field executorSection {} ["executor"] (entry "executor")
  let logging ← field loggingSection {} ["logging"] (entry "logging")
  return { executor, logging }

/-- The built-in defaults as the lowest layer. -/
def defaults : Value :=
  let config : Config := {}
  .table .defaults
    [("executor", .table .defaults
        [("batch_size", .scalar .defaults (.unsigned config.executor.batchSize)),
          ("max_retries", .scalar .defaults (.unsigned config.executor.maxRetries))]),
      ("logging", .table .defaults [("level", .scalar .defaults (.string config.logging.level))])]

/-- The configuration of layers laid over the defaults, the lowest first. -/
def ofLayers (layers : List Value) : Except Error Config :=
  ofValue (Value.layered (defaults :: layers))

end GraphBatch.Config
