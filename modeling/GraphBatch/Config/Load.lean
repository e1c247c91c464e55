import GraphBatch.Config.Decode
import GraphBatch.Config.Environment
import GraphBatch.Host
import GraphBatch.Toml.Document

/-!
# Loading the configuration

The configuration is found in four layers: the defaults, the user's file, the project's file and
the environment variables. A file named without a leading slash is looked for in the working
directory and then in each directory above it. Two names of fields in a settings text are reserved:
one makes a table stand for the value of that field, the other must not be given.
-/

namespace GraphBatch.Config

variable {m : Type → Type} [Monad m]

namespace Value

/-- The field by which a table stands for the value in it. -/
def valueKey : String := "___figment_value_value"

/-- The field that no table below the document's own may have. -/
def refusedKey : String := "___figment_value_id"

mutual

/-- A TOML value as a setting from `source`, if no table in it has a refused field. Dates and times
have no setting of their own and stand as tables. -/
def ofToml? (source : Source) : Toml.Value → Option Value
  | .string value => some (.scalar source (.string value))
  | .integer value => some (.scalar source (.signed value))
  | .float value => some (.scalar source (.float value))
  | .boolean value => some (.scalar source (.bool value))
  | .datetime => some (.table source [])
  | .array items => (itemsOfToml? source items).map (.list source)
  | .table fields => do
    let settings ← fieldsOfToml? source fields
    if (Fields.get? settings refusedKey).isSome then none
    else return (Fields.get? settings valueKey).getD (.table source settings)

def itemsOfToml? (source : Source) : List Toml.Value → Option (List Value)
  | [] => some []
  | item :: rest => do return (← ofToml? source item) :: (← itemsOfToml? source rest)

def fieldsOfToml? (source : Source) : List (String × Toml.Value) → Option (Fields Value)
  | [] => some []
  | (name, value) :: rest => do
    let value ← ofToml? source value
    return Fields.insert name value (← fieldsOfToml? source rest)

end

/-- A document's table as a layer. The names of its fields have no meaning of their own. -/
def ofDocument? (source : Source) (fields : List (String × Toml.Value)) : Option Value :=
  (fieldsOfToml? source fields).map (.table source)

end Value

def projectFile : String := "graphtx.toml"

/-- The layer of a settings text. -/
def textLayer (source : Source) (text : String) : Except Error Value :=
  match Toml.parse text.toList >>= Value.ofDocument? source with
  | some layer => .ok layer
  | none => .error .unreadable

/-- The configuration of a single settings text. -/
def ofText (text : String) : Except Error Config := do
  ofValue (← textLayer .text text)

/-- The layer of the first of the paths that is a file, empty if none is. -/
def firstFile (host : Host m) : List String → m (Except Error Value)
  | [] => return .ok (.table .defaults [])
  | path :: rest => do
    match ← host.readText path with
    | .ok text => return textLayer (.file path) text
    | .error .notText => return .error .unreadable
    | .error _ => firstFile host rest

/-- Where a file may be: an absolute path only there, a relative one from the working directory
upwards. -/
def candidates (host : Host m) (path : String) : List String :=
  if Path.isAbsolute path then [path] else (Path.ancestors host.directory).map (Path.join · path)

/-- The user's settings file: under the home directory if it exists there, else in the
configuration directory. -/
def userFile? (host : Host m) : m (Option String) := do
  let home? := (host.var? "HOME").filter (!·.isEmpty)
  let below (directory : String) := Path.join directory "graphtx/config.toml"
  let usual? := home?.map fun home => below (Path.join home ".config")
  let configured? := ((host.var? "XDG_CONFIG_HOME").filter Path.isAbsolute).map below
  match usual? with
  | none => return configured?
  | some usual => if ← host.pathExists usual then return some usual else return configured?.or usual?

/-- The merged configuration, with the given project file. -/
def load (host : Host m) (project : String) : m (Except Error Config) := do
  let user ← firstFile host (((← userFile? host).map (candidates host)).getD [])
  let project ← firstFile host (candidates host project)
  return do ofLayers [← user, ← project, Environment.layer host.vars]

end GraphBatch.Config
