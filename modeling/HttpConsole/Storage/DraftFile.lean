import HttpConsole.About
import HttpConsole.Storage.FileTree
import HttpConsole.Text.Split

/-!
# The draft file

The draft is kept in one file between sessions. A file that cannot be read, or holds no text,
counts as the default draft.
-/

set_option autoImplicit false

namespace HttpConsole.Storage

/-- Where the draft is kept: a path below a directory that is shown as `base`. -/
structure DraftFile where
  base : String
  path : String
deriving DecidableEq, Repr

structure SaveError where
  path : String
  fault : FileFault
deriving DecidableEq, Repr

def SaveError.message (error : SaveError) : String :=
  "could not save draft to " ++ error.path ++ ": " ++ error.fault.describe

namespace DraftFile

def inHome (home : String) : DraftFile :=
  { base := home, path := draftFileName }

def fullPath (file : DraftFile) : String :=
  file.base ++ "/" ++ file.path

def names (file : DraftFile) : List String :=
  (Text.splitBy (· == '/') file.path.toList).map String.ofList

def load (file : DraftFile) (tree : FileTree) : String :=
  match tree.read file.names with
  | .error _ => defaultDraft
  | .ok content => (Text.decode? content).getD defaultDraft

def trySave (file : DraftFile) (tree : FileTree) (text : String) : Except SaveError FileTree :=
  match tree.write file.names (Text.encode text) with
  | .ok saved => .ok saved
  | .error fault => .error { path := file.fullPath, fault := fault }

def save (file : DraftFile) (tree : FileTree) (text : String) : FileTree :=
  (file.trySave tree text).toOption.getD tree

end DraftFile

end HttpConsole.Storage
