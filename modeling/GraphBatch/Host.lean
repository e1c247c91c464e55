/-!
# The host

What a run sees of the machine it runs on: its variables, its working directory and its files.
-/

namespace GraphBatch

/-- Why a file cannot be read. -/
inductive FileFault where
  | missing
  | directory
  | notDirectory
  | longName
  | zeroInName
  | notText
  | other (message : String)
deriving Repr, DecidableEq

def FileFault.message : FileFault → String
  | missing => "No such file or directory (os error 2)"
  | directory => "Is a directory (os error 21)"
  | notDirectory => "Not a directory (os error 20)"
  | longName => "File name too long (os error 36)"
  | zeroInName => "file name contained an unexpected NUL byte"
  | notText => "stream did not contain valid UTF-8"
  | other message => message

/-- A machine whose files are read in `m`. A relative path starts at `directory`. -/
structure Host (m : Type → Type) where
  vars : List (String × String)
  directory : String
  read : String → m (Except FileFault ByteArray)

namespace Host

variable {m : Type → Type} [Monad m]

def var? (host : Host m) (name : String) : Option String :=
  host.vars.lookup name

def readText (host : Host m) (path : String) : m (Except FileFault String) := do
  match ← host.read path with
  | .error e => return .error e
  | .ok bytes =>
    match String.fromUTF8? bytes with
    | some text => return .ok text
    | none => return .error .notText

/-- Whether there is a file or a directory at the path. -/
def pathExists (host : Host m) (path : String) : m Bool := do
  match ← host.read path with
  | .ok _ | .error .directory | .error .notText => return true
  | .error _ => return false

end Host

namespace Path

def isAbsolute (path : String) : Bool :=
  path.toList.head? == some '/'

/-- The path `name` as seen from a directory. -/
def join (directory name : String) : String :=
  if isAbsolute name then name
  else if directory.toList.getLast? == some '/' then directory ++ name
  else directory ++ "/" ++ name

/-- A list with what follows each of its elements, the empty list last. -/
def tails {α : Type} : List α → List (List α)
  | [] => [[]]
  | a :: rest => (a :: rest) :: tails rest

/-- An absolute directory and those above it, itself first. -/
def ancestors (directory : String) : List String :=
  let parts := (directory.splitOn "/").filter (!·.isEmpty)
  (tails parts.reverse).map fun above => "/" ++ "/".intercalate above.reverse

end Path

end GraphBatch
