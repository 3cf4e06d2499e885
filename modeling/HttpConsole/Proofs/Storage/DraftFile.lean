import HttpConsole.Proofs.Text.Utf8
import HttpConsole.Storage.DraftFile
import Mathlib.Tactic.SplitIfs

/-! What was written to a file is read back from it, so that a draft that could be saved is the one
that the next session loads. -/

set_option autoImplicit false

namespace HttpConsole.Storage

open HttpConsole.Text (Bytes)

namespace FileTree

variable {tree saved : FileTree} {place : List String} {node : Node} {content : Bytes}

theorem node?_put_self (notRoot : place ≠ []) : (tree.put place node).node? place = some node := by
  rw [node?, if_neg notRoot, put, List.lookup_cons_self]

private theorem lookup_filter_ne {other : List String} (different : other ≠ place)
    (nodes : List (List String × Node)) :
    (nodes.filter fun entry => entry.1 != place).lookup other = nodes.lookup other := by
  induction nodes with
  | nil => rfl
  | cons entry rest ih =>
      obtain ⟨taken, node⟩ := entry
      by_cases same : taken = place
      · have absent : (other == taken) = false := by
          rw [same]
          exact beq_false_of_ne different
        rw [List.filter_cons_of_neg (by simpa using same), ih, List.lookup_cons, absent]
      · rw [List.filter_cons_of_pos (by simpa using same), List.lookup_cons, List.lookup_cons, ih]

theorem node?_put_of_ne {other : List String} (different : other ≠ place) :
    (tree.put place node).node? other = tree.node? other := by
  rw [node?, node?, put, List.lookup_cons, beq_false_of_ne different]
  split
  · rfl
  · exact lookup_filter_ne different tree.nodes

private theorem directory_of_walk {name : String} {rest start found : List String}
    (walked : tree.walk start (name :: rest) = .ok found) :
    tree.node? start = some .directory := by
  rw [walk] at walked
  split at walked
  · cases walked
  · cases walked
  · assumption

private theorem walk_of_directory {name : String} {rest start : List String}
    (directory : tree.node? start = some .directory) : tree.walk start (name :: rest) =
      if name = "" ∨ name = "." then tree.walk start rest
      else if name = ".." then tree.walk start.dropLast rest
      else if maxNameLength < name.utf8ByteSize then .error .nameTooLong
      else tree.walk (start ++ [name]) rest := by
  rw [walk, directory]

/-- A file in the place of something that is no directory is on nobody's way. -/
theorem walk_put (notDirectory : tree.node? place ≠ some .directory)
    {names start found : List String} (walked : tree.walk start names = .ok found) :
    (tree.put place (.file content)).walk start names = .ok found := by
  induction names generalizing start with
  | nil => exact walked
  | cons name rest ih =>
      have directory := directory_of_walk walked
      have apart : start ≠ place := by
        rintro rfl
        exact notDirectory directory
      rw [walk_of_directory directory] at walked
      rw [walk_of_directory ((node?_put_of_ne apart).trans directory)]
      split_ifs at walked ⊢ with stays up tooLong
      · exact ih walked
      · exact ih walked
      · exact ih walked

theorem resolve_put (notDirectory : tree.node? place ≠ some .directory)
    {path found : List String} (resolved : tree.resolve path = .ok found) :
    (tree.put place (.file content)).resolve path = .ok found := by
  unfold resolve at resolved ⊢
  split_ifs at resolved ⊢ with zero
  exact walk_put notDirectory resolved

private theorem exists_of_bind_ok {Fault Value Result : Type} {first : Except Fault Value}
    {later : Value → Except Fault Result} {result : Result} (done : first >>= later = .ok result) :
    ∃ value, first = .ok value ∧ later value = .ok result := by
  cases first with
  | error fault => cases done
  | ok value => exact ⟨value, rfl, done⟩

/-- A write that succeeds puts one file where there is no directory. -/
theorem write_cases {path : List String} (written : tree.write path content = .ok saved) :
    ∃ place, tree.resolve path = .ok place ∧ tree.node? place ≠ some .directory ∧
      asksForDirectory path = false ∧ saved = tree.put place (.file content) := by
  obtain ⟨place, resolved, put⟩ := exists_of_bind_ok written
  refine ⟨place, resolved, ?_⟩
  split at put
  · cases put
  · next file =>
      split_ifs at put with asks
      · cases put
        exact ⟨by simp [file], eq_false_of_ne_true asks, rfl⟩
  · next free =>
      split_ifs at put with asks
      · cases put
        exact ⟨by simp [free], eq_false_of_ne_true asks, rfl⟩

/-- What is written is what the same path reads afterwards. -/
theorem read_write {path : List String} (written : tree.write path content = .ok saved) :
    saved.read path = .ok content := by
  obtain ⟨place, resolved, notDirectory, forFile, rfl⟩ := write_cases written
  have notRoot : place ≠ [] := by
    rintro rfl
    exact notDirectory (if_pos rfl)
  simp only [read, bind, Except.bind, resolve_put notDirectory resolved, node?_put_self notRoot,
    forFile, Bool.false_eq_true, if_false]
  rfl

end FileTree

namespace DraftFile

variable {file : DraftFile} {tree saved : FileTree} {text : String}

theorem trySave_ok (done : file.trySave tree text = .ok saved) :
    tree.write file.names (Text.encode text) = .ok saved := by
  rw [trySave] at done
  split at done
  · next written =>
      cases done
      exact written
  · cases done

theorem read_trySave (done : file.trySave tree text = .ok saved) :
    saved.read file.names = .ok (Text.encode text) :=
  FileTree.read_write (trySave_ok done)

/-- A draft that was saved is the one that is loaded, also if it is empty. -/
theorem load_trySave (done : file.trySave tree text = .ok saved) : file.load saved = text := by
  rw [load, read_trySave done]
  change (Text.decode? (Text.encode text)).getD defaultDraft = text
  rw [Text.decode?_encode, Option.getD_some]

end DraftFile

end HttpConsole.Storage
