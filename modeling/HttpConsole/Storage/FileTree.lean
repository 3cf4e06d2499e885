import HttpConsole.Text.Utf8

/-!
# A tree of files

Directories and files under one root, reached by paths. A path is read name by name: every name
but the last has to lead to a directory, `.` stays and `..` goes up.
-/

set_option autoImplicit false

namespace HttpConsole.Storage

open HttpConsole.Text (Bytes)

inductive Node where
  | file (content : Bytes)
  | directory
deriving DecidableEq, Repr

/-- Files and directories under a root, by the names that lead to them. The root itself is always
a directory. -/
structure FileTree where
  nodes : List (List String × Node)
deriving DecidableEq, Repr

inductive FileFault where
  | notFound
  | notDirectory
  | isDirectory
  | nameTooLong
  | zeroInName
deriving DecidableEq, Repr

def FileFault.describe : FileFault → String
  | .notFound => "No such file or directory (os error 2)"
  | .notDirectory => "Not a directory (os error 20)"
  | .isDirectory => "Is a directory (os error 21)"
  | .nameTooLong => "File name too long (os error 36)"
  | .zeroInName => "file name contained an unexpected NUL byte"

def maxNameLength : Nat := 255

namespace FileTree

def empty : FileTree := { nodes := [] }

def node? (tree : FileTree) (place : List String) : Option Node :=
  if place = [] then some .directory else tree.nodes.lookup place

def put (tree : FileTree) (place : List String) (node : Node) : FileTree :=
  { nodes := (place, node) :: tree.nodes.filter fun entry => entry.1 != place }

/-- Follows names from a directory; the last name need not exist. -/
def walk (tree : FileTree) (place : List String) : List String → Except FileFault (List String)
  | [] => .ok place
  | name :: rest =>
      match tree.node? place with
      | none => .error .notFound
      | some (.file _) => .error .notDirectory
      | some .directory =>
          if name = "" ∨ name = "." then walk tree place rest
          else if name = ".." then walk tree place.dropLast rest
          else if maxNameLength < name.utf8ByteSize then .error .nameTooLong
          else walk tree (place ++ [name]) rest

/-- Whether a path ends with a slash, and so asks for a directory. -/
def asksForDirectory (path : List String) : Bool :=
  path.getLast? == some ""

def resolve (tree : FileTree) (path : List String) : Except FileFault (List String) :=
  if path.any fun name => name.toList.contains '\x00' then .error .zeroInName
  else tree.walk [] (path.reverse.dropWhile (· == "")).reverse

def read (tree : FileTree) (path : List String) : Except FileFault Bytes := do
  let place ← tree.resolve path
  match tree.node? place with
  | none => throw .notFound
  | some .directory => throw .isDirectory
  | some (.file content) => if asksForDirectory path then throw .notDirectory else return content

/-- Writes a file, which is made if there is none. -/
def write (tree : FileTree) (path : List String) (content : Bytes) :
    Except FileFault FileTree := do
  let place ← tree.resolve path
  match tree.node? place with
  | some .directory => throw .isDirectory
  | some (.file _) =>
      if asksForDirectory path then throw .notDirectory else return tree.put place (.file content)
  | none =>
      if asksForDirectory path then throw .isDirectory else return tree.put place (.file content)

/-- Makes the directories that names lead to; names that are taken stay as they are. -/
def makeDirectories (tree : FileTree) (place : List String) : List String → FileTree
  | [] => tree
  | name :: rest =>
      if name = "" ∨ name = "." then makeDirectories tree place rest
      else if name = ".." then makeDirectories tree place.dropLast rest
      else
        let next := place ++ [name]
        match tree.node? next with
        | some .directory => makeDirectories tree next rest
        | some (.file _) => tree
        | none => makeDirectories (tree.put next .directory) next rest

end FileTree

end HttpConsole.Storage
