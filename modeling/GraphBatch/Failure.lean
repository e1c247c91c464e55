import GraphBatch.Config.Error

/-!
# Failures

The failures of the library, by cause. Two classes matter to the runner: an infrastructure failure
is one of the store itself and always ends a run, a transient failure may go away when the work is
tried again in a fresh transaction. No failure is in both classes.
-/

namespace GraphBatch

inductive Failure where
  | connection (message : String)
  | transient (message : String)
  | query (message text : String)
  | endOfSequence
  | unitOfWork (message : String)
  | validation (message : String)
  | internal (message : String)
  | config (error : Config.Error)
  /-- The number of the next attempt does not fit the attempt counter. -/
  | attemptOverflow

namespace Failure

def isInfrastructure : Failure → Bool
  | connection _ => true
  | _ => false

def isTransient : Failure → Bool
  | transient _ => true
  | _ => false

/-- Store failures, as against those of the work itself. -/
def isStore (e : Failure) : Bool :=
  e.isInfrastructure || e.isTransient

def message : Failure → String
  | connection message => "Store connection error: " ++ message
  | transient message => "Transient store failure: " ++ message
  | query message _ => "Query error: " ++ message
  | endOfSequence => "Input sequence exhausted"
  | unitOfWork message => "Unit of work failed: " ++ message
  | validation message => "Validation error: " ++ message
  | internal message => "Internal error: " ++ message
  | config error => "Configuration error: " ++ error.message?.getD ""
  | attemptOverflow => "no further attempt can be counted"

/-- The failure in constructor form, texts quoted. -/
def describe : Failure → String
  | connection message => "Connection(" ++ Text.quoted message ++ ")"
  | transient message => "Transient(" ++ Text.quoted message ++ ")"
  | query message text =>
    "Query \x7b message: " ++ Text.quoted message ++ ", query: " ++ Text.quoted text ++ " \x7d"
  | endOfSequence => "EndOfSequence"
  | unitOfWork message => "UnitOfWork(" ++ Text.quoted message ++ ")"
  | validation message => "Validation(" ++ Text.quoted message ++ ")"
  | internal message => "Internal(" ++ Text.quoted message ++ ")"
  | config _ => "Config(..)"
  | attemptOverflow => "AttemptOverflow"

/-- Whether the failure wraps another one that caused it. -/
def hasSource : Failure → Bool
  | config _ => true
  | _ => false

theorem not_isTransient_of_isInfrastructure {e : Failure} (h : e.isInfrastructure) :
    e.isTransient = false := by
  cases e <;> simp_all [isInfrastructure, isTransient]

/-! ## The failures that the library raises itself -/

def storeOffline : Failure := .connection "store is offline"

def commitRejected : Failure := .connection "commit rejected by store"

def deadlock (text : String) : Failure := .transient ("deadlock detected while executing: " ++ text)

def emptyBatch : Failure := .validation "batch size must be at least 1"

def badParameter (name message : String) : Failure :=
  .validation ("parameter '" ++ name ++ "' cannot be serialized: " ++ message)

def noColumn (column : String) : Failure := .internal ("column not found: " ++ column)

def badColumn (column message : String) : Failure :=
  .internal ("failed to deserialize '" ++ column ++ "': " ++ message)

def inputRolledBack : Failure := .internal "input transaction was rolled back"

def rejectedItem (item : String) : Failure := .unitOfWork ("item " ++ item ++ " rejected")

end Failure

end GraphBatch
