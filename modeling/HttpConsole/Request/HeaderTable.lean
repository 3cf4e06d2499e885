/-!
# Headers of a request text

The headers as they are written: each name once, in the order in which the names first appear,
with the value that was written last. Names that differ in case are different here.
-/

set_option autoImplicit false

namespace HttpConsole.Request

/-- Entries after writing one header: a name that is present keeps its place and gets the new
value, and a new name goes to the end. -/
def putEntry (name value : String) : List (String × String) → List (String × String)
  | [] => [(name, value)]
  | (present, old) :: rest =>
      if present = name then (present, value) :: rest
      else (present, old) :: putEntry name value rest

theorem map_fst_putEntry (name value : String) (entries : List (String × String)) :
    (putEntry name value entries).map Prod.fst =
      if name ∈ entries.map Prod.fst then entries.map Prod.fst
      else entries.map Prod.fst ++ [name] := by
  induction entries with
  | nil => simp [putEntry]
  | cons entry rest ih =>
      obtain ⟨present, old⟩ := entry
      by_cases same : present = name
      · simp [putEntry, same]
      · have different : ¬ name = present := fun equal => same equal.symm
        simp only [putEntry, if_neg same, List.map_cons, ih, List.mem_cons, different, false_or]
        split <;> simp

theorem mem_putEntry {name value other content : String} {entries : List (String × String)}
    (unique : (entries.map Prod.fst).Nodup) :
    (other, content) ∈ putEntry name value entries ↔
      (other = name ∧ content = value) ∨ (other ≠ name ∧ (other, content) ∈ entries) := by
  induction entries with
  | nil => simp [putEntry]
  | cons entry rest ih =>
      obtain ⟨present, old⟩ := entry
      rw [List.map_cons, List.nodup_cons] at unique
      by_cases same : present = name
      · have absent : ∀ text, (name, text) ∉ rest := fun text member =>
          unique.1 (List.mem_map.mpr ⟨(name, text), member, same.symm⟩)
        simp only [putEntry, if_pos same, List.mem_cons, Prod.mk.injEq]
        grind
      · simp only [putEntry, if_neg same, List.mem_cons, Prod.mk.injEq, ih unique.2]
        grind

/-- Headers in the order of their names' first appearance. -/
structure HeaderTable where
  entries : List (String × String)
  names_nodup : (entries.map Prod.fst).Nodup

namespace HeaderTable

def empty : HeaderTable :=
  { entries := [], names_nodup := by simp }

def put (table : HeaderTable) (name value : String) : HeaderTable :=
  { entries := putEntry name value table.entries
    names_nodup := by
      rw [map_fst_putEntry]
      split
      · exact table.names_nodup
      · next absent =>
          refine List.nodup_append.2 ⟨table.names_nodup, by simp, ?_⟩
          intro present presentMem new newMem equal
          rw [List.mem_singleton] at newMem
          exact absent (newMem ▸ equal ▸ presentMem) }

/-- The value of the first header whose name is `name` in any mix of case. -/
def findIgnoringCase? (table : HeaderTable) (name : String) : Option String :=
  (table.entries.find? fun entry => entry.1.map Char.toLower == name.map Char.toLower).map
    Prod.snd

@[simp] theorem entries_empty : empty.entries = [] := rfl

@[simp] theorem entries_put (table : HeaderTable) (name value : String) :
    (table.put name value).entries = putEntry name value table.entries := rfl

end HeaderTable

end HttpConsole.Request
