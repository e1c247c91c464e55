import GraphBatch.Stats

/-!
# Log events

An event has a level, a message and named fields.
-/

namespace GraphBatch

inductive Level where
  | trace
  | debug
  | info
  | warn
deriving Repr, DecidableEq

def Level.name : Level → String
  | trace => "TRACE"
  | debug => "DEBUG"
  | info => "INFO"
  | warn => "WARN"

/-- How grave an event of this level is. -/
def Level.rank : Level → Nat
  | trace => 0
  | debug => 1
  | info => 2
  | warn => 3

def Level.ofName? : String → Option Level
  | "trace" => some trace
  | "debug" => some debug
  | "info" => some info
  | "warn" => some warn
  | _ => none

structure Event where
  level : Level
  message : String
  fields : List (String × Json) := []

/-- An event as a line of a log. -/
def Event.line (e : Event) : String :=
  let fields := e.fields.map fun (name, value) => " " ++ name ++ "=" ++ value.compact
  e.level.name ++ " " ++ e.message ++ "".intercalate fields ++ "\n"

/-- A transaction was dropped while open. -/
def Event.transactionDropped : Event :=
  ⟨.warn, "MemoryTransaction dropped without commit or rollback - changes discarded", []⟩

end GraphBatch
