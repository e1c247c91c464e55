import GraphBatch.Cli.Arguments
import GraphBatch.Config.Load
import GraphBatch.Items
import GraphBatch.Json.Reader
import GraphBatch.Simulation

/-!
# Running commands

`Arguments.run` reads the configuration and, for a simulation, the items, the rejected value and
the batch size, in this order; the first fault among them ends the run.
-/

namespace GraphBatch.Cli

/-- Why a command fails. -/
inductive RunFault where
  | config (error : Config.Error)
  | unreadableInput (path : String) (cause : FileFault)
  | badItem (fault : Items.Fault Json.ReadError)
  | badRejection (cause : Json.ReadError)
  | failed (cause : Failure)

/-- The messages of a fault, from the outermost to its cause. -/
def RunFault.chain : RunFault → List String
  | config error => error.message?.toList
  | unreadableInput path cause => ["Failed to read " ++ path, cause.message]
  | badItem fault => ["line " ++ toString fault.line ++ ": invalid JSON: " ++ fault.cause.message]
  | badRejection cause => ["--fail-on must be a JSON value", cause.message]
  | failed cause => [cause.message]

/-- What a command prints or fails with, and the events of its run. -/
structure Outcome where
  result : Except RunFault String
  events : List Event := []

/-- A value as a command prints it. -/
def printed (value : Json) : String :=
  value.pretty ++ "\n"

variable {m : Type → Type} [Monad m]

def readItems (host : Host m) (path : String) : m (Except RunFault (List Json)) := do
  match ← host.readText path with
  | .error cause => return .error (.unreadableInput path cause)
  | .ok text =>
    match Items.read (fun line => Json.parse (String.ofList line)) text.toList with
    | .error fault => return .error (.badItem fault)
    | .ok items => return .ok items

def readRejected : Option String → Except RunFault (Option Json)
  | none => .ok none
  | some text =>
    match Json.parse text with
    | .error cause => .error (.badRejection cause)
    | .ok value => .ok (some value)

def Simulate.starting (options : Simulate) (items : List Json) : Event :=
  ⟨.info, "Simulating batch execution", [("items", .int items.length), ("input", .string options.input)]⟩

/-- The simulation of items that were read: a batch size in the options overrides the configured
one. -/
def Simulate.simulation (options : Simulate) (config : ExecutorConfig) (items : List Json)
    (rejected : Option Json) : Simulation :=
  { items, rejected, settings := .configure config :: (options.batchSize.map .batchSize).toList }

def Simulate.run (options : Simulate) (host : Host m) (config : ExecutorConfig) : m Outcome := do
  match ← readItems host options.input with
  | .error fault => return { result := .error fault }
  | .ok items =>
    match readRejected options.failOn with
    | .error fault => return { result := .error fault }
    | .ok rejected =>
      let (report, events) := (options.simulation config items rejected).run
      let result := match report with
        | .error cause => .error (.failed cause)
        | .ok report => .ok (printed report.toJson)
      return { result, events := options.starting items :: events }

/-- Runs a command. -/
def Command.run (command : Command) (host : Host m) : m Outcome := do
  match ← Config.load host Config.projectFile with
  | .error error => return { result := .error (.config error) }
  | .ok loaded =>
    match command with
    | .config => return { result := .ok (printed loaded.toJson) }
    | .simulate options => options.run host loaded.executor

end GraphBatch.Cli
