import GraphBatch.Host

/-!
# Files held in memory

A file tree is a set of files under absolute paths. Every directory above a file exists, and some
exist without a file in them. Paths are followed part by part, so that a file stands for a
directory nowhere, not even before a `..`.
-/

namespace GraphBatch

structure FileTree where
  /-- The content of each file, under the parts of its path. -/
  files : List (List String × ByteArray) := []
  /-- Further directories. -/
  directories : List (List String) := []

namespace FileTree

/-- The parts of a plain absolute path. -/
def parts (path : String) : List String :=
  (path.splitOn "/").filter (!·.isEmpty)

def addFile (tree : FileTree) (path : String) (content : ByteArray) : FileTree :=
  { tree with files := (parts path, content) :: tree.files }

def addDirectory (tree : FileTree) (path : String) : FileTree :=
  { tree with directories := parts path :: tree.directories }

def isDirectory (tree : FileTree) (place : List String) : Bool :=
  place.isEmpty || tree.directories.any place.isPrefixOf ||
    tree.files.any fun (path, _) => place.isPrefixOf path && place.length < path.length

/-- The longest name of a file in bytes, and the longest path. -/
def nameLimit : Nat := 255

def pathLimit : Nat := 4095

/-- Follows the parts of a path from a place. -/
def follow (tree : FileTree) (place : List String) : List String → Except FileFault (List String)
  | [] => .ok place
  | part :: rest =>
    if !tree.isDirectory place then
      .error (if (tree.files.lookup place).isSome then .notDirectory else .missing)
    else if part = "" ∨ part = "." then follow tree place rest
    else if part = ".." then follow tree place.dropLast rest
    else if nameLimit < part.utf8ByteSize then .error .longName
    else follow tree (place ++ [part]) rest

def read (tree : FileTree) (path : String) : Except FileFault ByteArray := do
  let place ← tree.follow [] (path.splitOn "/")
  match tree.files.lookup place with
  | some content => .ok content
  | none => .error (if tree.isDirectory place then .directory else .missing)

/-- Reads the file under a path as it is given, seen from a directory. -/
def readFrom (tree : FileTree) (directory path : String) : Except FileFault ByteArray :=
  if path.toList.contains (Char.ofNat 0) then .error .zeroInName
  else if path.isEmpty then .error .missing
  else if pathLimit < path.utf8ByteSize then .error .longName
  else tree.read (Path.join directory path)

/-- The machine that has these files. -/
def host (tree : FileTree) (directory : String) (vars : List (String × String)) : Host Id :=
  { vars, directory, read := tree.readFrom directory }

end FileTree

end GraphBatch
