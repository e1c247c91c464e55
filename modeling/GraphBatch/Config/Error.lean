import GraphBatch.Config.Value
import GraphBatch.Decimal.Format
import GraphBatch.Text.Quoted

/-!
# Faults in settings

Either a settings text cannot be read at all, or one setting has a value of the wrong type or an
integer out of range; then the fault names the setting and the layer that supplied it.
-/

namespace GraphBatch.Config

/-- What kind of value was found. -/
inductive Found where
  | bool (value : Bool)
  | signed (value : Int)
  | unsigned (value : Nat)
  | float (value : Float)
  | string (value : String)
  | sequence
  | map

def Found.describe : Found → String
  | bool value => "bool " ++ toString value
  | signed value => "signed int `" ++ toString value ++ "`"
  | unsigned value => "unsigned int `" ++ toString value ++ "`"
  | float value => "float `" ++ Decimal.positional value ++ "`"
  | string value => "string " ++ Text.quoted value
  | sequence => "sequence"
  | map => "map"

def Value.found : Value → Found
  | .scalar _ (.string value) => .string value
  | .scalar _ (.char value) => .string (String.singleton value)
  | .scalar _ (.bool value) => .bool value
  | .scalar _ (.signed value) => .signed value
  | .scalar _ (.unsigned value) => .unsigned value
  | .scalar _ (.float value) => .float value
  | .list _ _ => .sequence
  | .table _ _ => .map

/-- A setting that does not decode: `outOfRange` tells an integer of the wrong size from a value
of the wrong type. -/
structure Mismatch where
  outOfRange : Bool
  found : Found
  expected : String
  path : List String
  source : Source

def Source.describe : Source → String
  | defaults => "the built-in defaults"
  | text => "TOML source string"
  | file path => path ++ " TOML file"
  | environment => "`GRAPHTX_` environment variable(s)"

/-- The name of a setting as its layer writes it. -/
def Source.key (source : Source) (path : List String) : String :=
  match source with
  | environment => ".".intercalate (path.map String.toUpper)
  | _ => ".".intercalate ("default" :: path)

def Mismatch.cause (m : Mismatch) : String :=
  if m.outOfRange then "invalid value " ++ m.found.describe ++ ", expected " ++ m.expected
  else "invalid type: found " ++ m.found.describe ++ ", expected " ++ m.expected

def Mismatch.message (m : Mismatch) : String :=
  m.cause ++ " for key \"" ++ m.source.key m.path ++ "\" in " ++ m.source.describe

inductive Error where
  | unreadable
  | mismatch (detail : Mismatch)

/-- The message of a fault; that of an unreadable text depends on the reader and is left open. -/
def Error.message? : Error → Option String
  | unreadable => none
  | mismatch detail => some detail.message

end GraphBatch.Config
