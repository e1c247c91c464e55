import GraphBatch.Cli.Run

/-!
# Whole runs

A run of the program ends with an exit code, 0 when it did what was asked, 1 when the command
failed and 2 when the arguments make no sense, and with texts on the two output streams. Results
stand on the standard output alone, so it is empty whenever the code is not 0.
-/

namespace GraphBatch.Cli

def programName : String := "graphtx"

def programVersion : String := "0.1.0"

def usage : String :=
  "Batched transactional execution on top of graph database clients\n\n" ++
  "Usage: graphtx [OPTIONS] <COMMAND>\n\n" ++
  "Commands:\n" ++
  "  simulate  Run a JSON-lines input through the batch executor against the in-memory store\n" ++
  "  config    Print the resolved configuration\n" ++
  "  help      Print this message\n\n" ++
  "Options:\n" ++
  "  -v, --verbose  Run in verbose mode\n" ++
  "  -h, --help     Print help\n" ++
  "  -V, --version  Print version\n\n" ++
  "Options of simulate:\n" ++
  "      --input <INPUT>            JSON-lines input file\n" ++
  "      --batch-size <BATCH_SIZE>  Items per transaction (overrides config)\n" ++
  "      --fail-on <FAIL_ON>        Fail the unit of work for items equal to this JSON value\n"

def UsageFault.message : UsageFault → String
  | help | noWords => usage
  | version => programName ++ " " ++ programVersion ++ "\n"
  | missingSubcommand => "error: a command is required\n"
  | invalidSubcommand => "error: unrecognized command\n"
  | unknownArgument => "error: unexpected argument\n"
  | repeatedOption => "error: an option was given twice\n"
  | flagWithValue => "error: a flag takes no value\n"
  | missingValue => "error: an option needs a value\n"
  | invalidValue => "error: the batch size has to be a natural number\n"
  | missingOption => "error: --input is required\n"

/-- What a run of the program leaves behind. -/
structure Exit where
  code : Nat
  output : String := ""
  errors : String := ""
deriving Repr, DecidableEq

def UsageFault.exit (fault : UsageFault) : Exit :=
  if fault.exitCode = 0 then { code := 0, output := fault.message }
  else { code := fault.exitCode, errors := fault.message }

/-- The log of the events from the named level on; empty if no level has this name. -/
def logged (name : String) (events : List Event) : String :=
  match Level.ofName? name with
  | none => ""
  | some lowest => "".intercalate ((events.filter (lowest.rank ≤ ·.level.rank)).map Event.line)

def Outcome.exit (outcome : Outcome) (level : String) : Exit :=
  let log := logged level outcome.events
  match outcome.result with
  | .ok text => { code := 0, output := text, errors := log }
  | .error fault => { code := 1, errors := log ++ "Error: " ++ ": ".intercalate fault.chain ++ "\n" }

variable {m : Type → Type} [Monad m]

/-- The level from which on events are logged. -/
def logLevel (host : Host m) (verbose : Bool) : m String := do
  if verbose then return "debug"
  match ← Config.load host Config.projectFile with
  | .ok config => return config.logging.level
  | .error _ => return ({} : LoggingConfig).level

/-- Runs the program with the given words. -/
def run (words : List String) (host : Host m) : m Exit := do
  match Arguments.ofWords words with
  | .error fault => return fault.exit
  | .ok arguments =>
    let level ← logLevel host arguments.verbose
    return (← arguments.command.run host).exit level

end GraphBatch.Cli
