import GraphBatch.Decimal.Parse
import GraphBatch.Width

/-!
# Command line arguments

The words before a command belong to the program, those after it to the command. A word is a long
option, a cluster of short ones, or plain; after two dashes every word is plain. The value of an
option stands behind an equals sign or is the next word. It is checked when the next option or the
end of the words is reached, so that an unknown option is reported before it.
-/

namespace GraphBatch.Cli

/-- Why arguments give no command to run. -/
inductive UsageFault where
  | help
  | version
  /-- There are no words at all. -/
  | noWords
  | missingSubcommand
  | invalidSubcommand
  | unknownArgument
  /-- An option is given twice. -/
  | repeatedOption
  /-- A flag is given a value. -/
  | flagWithValue
  | missingValue
  | invalidValue
  | missingOption
deriving Repr, DecidableEq

/-- Help and version are asked for and no fault. -/
def UsageFault.exitCode : UsageFault → Nat
  | help | version => 0
  | _ => 2

inductive Flag where
  | verbose
  | help
  | version
deriving Repr, DecidableEq

/-- Options that take a value. -/
inductive Setting where
  | input
  | batchSize
  | failOn
deriving Repr, DecidableEq

def Flag.long : Flag → String
  | verbose => "verbose"
  | help => "help"
  | version => "version"

def Flag.short : Flag → Char
  | verbose => 'v'
  | help => 'h'
  | version => 'V'

def Setting.long : Setting → String
  | input => "input"
  | batchSize => "batch-size"
  | failOn => "fail-on"

structure Simulate where
  input : String
  batchSize : Option Nat := none
  failOn : Option String := none
deriving Repr, DecidableEq

inductive Command where
  | simulate (options : Simulate)
  | config
deriving Repr, DecidableEq

structure Arguments where
  verbose : Bool := false
  command : Command
deriving Repr, DecidableEq

/-! ## Words -/

inductive Word where
  | escape
  | long (name : String) (value? : Option String)
  | short (letters : List Char)
  | plain (text : String)
deriving Repr, DecidableEq

/-- The form of a word; a single dash is plain. -/
def Word.ofString (text : String) : Word :=
  match text.toList with
  | ['-', '-'] => .escape
  | '-' :: '-' :: rest =>
    let name := String.ofList (rest.takeWhile (· ≠ '='))
    match rest.dropWhile (· ≠ '=') with
    | [] => .long name none
    | _ :: value => .long name (some (String.ofList value))
  | '-' :: letter :: rest => .short (letter :: rest)
  | _ => .plain text

/-! ## Options -/

/-- The options that are known before or after a command. -/
structure Level where
  flags : List Flag
  settings : List Setting := []

/-- The options read so far. -/
structure Options where
  verbose : Bool := false
  input : Option String := none
  batchSize : Option Nat := none
  failOn : Option String := none
  /-- The last option that takes a value, until the value is checked. -/
  pending : Option (Setting × Option String) := none

namespace Options

/-- Sets an option that was not set before. -/
def assign (o : Options) (setting : Setting) (value : String) : Except UsageFault Options :=
  match setting with
  | .input =>
    if o.input.isSome then .error .repeatedOption
    else if value.isEmpty then .error .missingValue
    else .ok { o with input := some value }
  | .batchSize =>
    if o.batchSize.isSome then .error .repeatedOption
    else
      match Decimal.natural? (Width.bound 64) value.toList with
      | some size => .ok { o with batchSize := some size }
      | none => .error .invalidValue
  | .failOn =>
    if o.failOn.isSome then .error .repeatedOption else .ok { o with failOn := some value }

/-- Checks the pending value. -/
def settle (o : Options) : Except UsageFault Options :=
  match o.pending with
  | none => .ok o
  | some (_, none) => .error .missingValue
  | some (setting, some value) => { o with pending := none }.assign setting value

def raise (o : Options) (flag : Flag) : Except UsageFault Options := do
  let o ← o.settle
  match flag with
  | .verbose => if o.verbose then .error .repeatedOption else .ok { o with verbose := true }
  | .help => .error .help
  | .version => .error .version

def readLong (level : Level) (o : Options) (name : String) (value? : Option String) :
    Except UsageFault Options :=
  match level.settings.find? (·.long == name), level.flags.find? (·.long == name), value? with
  | some setting, _, some value => do (← o.settle).assign setting value
  | some setting, _, none => do return { ← o.settle with pending := some (setting, none) }
  | none, some _, some _ => .error .flagWithValue
  | none, some flag, none => o.raise flag
  | none, none, _ => .error .unknownArgument

def readShort (level : Level) (o : Options) (letter : Char) : Except UsageFault Options :=
  match level.flags.find? (·.short == letter) with
  | some flag => o.raise flag
  | none => .error .unknownArgument

/-- Reads a word that is not the escape. A plain one has to be an awaited value. -/
def readWord (level : Level) (o : Options) : Word → Except UsageFault Options
  | .long name value? => o.readLong level name value?
  | .short letters => letters.foldlM (readShort level) o
  | .plain text =>
    match o.pending with
    | some (setting, none) => .ok { o with pending := some (setting, some text) }
    | _ => .error .unknownArgument
  | .escape => .error .unknownArgument

/-- Reads the words of a command. -/
def read (level : Level) (o : Options) : List String → Except UsageFault Options
  | [] => o.settle
  | text :: rest =>
    match Word.ofString text, rest with
    | .escape, [] => o.settle
    | word, rest => do (← o.readWord level word).read level rest

end Options

/-! ## Commands -/

inductive CommandName where
  | simulate
  | config
  | help
deriving Repr, DecidableEq

def CommandName.ofString? : String → Option CommandName
  | "simulate" => some simulate
  | "config" => some config
  | "help" => some help
  | _ => none

namespace Arguments

def programLevel : Level := { flags := [.verbose, .help, .version] }

def simulateLevel : Level :=
  { flags := [.verbose, .help], settings := [.input, .batchSize, .failOn] }

def configLevel : Level := { flags := [.verbose, .help] }

/-- What asking for help about a path of commands comes to: no command has commands of its own. -/
def helpAbout : List String → UsageFault
  | [] => .help
  | [name] => if (CommandName.ofString? name).isSome then .help else .invalidSubcommand
  | _ => .invalidSubcommand

def ofCommand (verbose : Bool) (rest : List String) : CommandName → Except UsageFault Arguments
  | .help => .error (helpAbout rest)
  | .config => do
    let o ← Options.read configLevel {} rest
    return { verbose := verbose || o.verbose, command := .config }
  | .simulate => do
    let o ← Options.read simulateLevel {} rest
    match o.input with
    | none => .error .missingOption
    | some input =>
      return {
        verbose := verbose || o.verbose
        command := .simulate { input, batchSize := o.batchSize, failOn := o.failOn } }

/-- The fault of words that end without a command. -/
def unfinished (o : Options) : UsageFault :=
  if o.verbose then .missingSubcommand else .noWords

/-- Reads the words that stand before the command. -/
def readFrom (o : Options) : List String → Except UsageFault Arguments
  | [] => .error (unfinished o)
  | text :: rest =>
    match CommandName.ofString? text, Word.ofString text with
    | some name, _ => ofCommand o.verbose rest name
    | none, .plain _ => .error .invalidSubcommand
    | none, .escape =>
      match rest with
      | [] => .error (unfinished o)
      | next :: _ =>
        .error (if (CommandName.ofString? next).isSome then .unknownArgument else .invalidSubcommand)
    | none, word => do readFrom (← o.readWord programLevel word) rest

def ofWords (words : List String) : Except UsageFault Arguments :=
  readFrom {} words

end Arguments

end GraphBatch.Cli
