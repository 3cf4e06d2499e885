/-!
# Flags of a request text

A set of flag names, kept in ascending order of code points.
-/

set_option autoImplicit false

namespace HttpConsole.Request

/-- Names after adding one; a name that is present is not added again. -/
def addName (name : String) : List String → List String
  | [] => [name]
  | present :: rest =>
      if name < present then name :: present :: rest
      else if name = present then present :: rest
      else present :: addName name rest

theorem mem_addName {name other : String} {names : List String} :
    other ∈ addName name names ↔ other = name ∨ other ∈ names := by
  induction names with
  | nil => simp [addName]
  | cons present rest ih =>
      simp only [addName]
      split
      · simp
      · split
        · next equal => subst equal; simp
        · simp only [List.mem_cons, ih]; grind

theorem pairwise_addName {name : String} {names : List String}
    (ascending : names.Pairwise (· < ·)) : (addName name names).Pairwise (· < ·) := by
  induction names with
  | nil => simp [addName]
  | cons present rest ih =>
      rw [List.pairwise_cons] at ascending
      simp only [addName]
      split
      · next before =>
          refine List.pairwise_cons.2 ⟨fun other member => ?_, List.pairwise_cons.2 ascending⟩
          rcases List.mem_cons.1 member with rfl | inRest
          · exact before
          · exact String.lt_trans before (ascending.1 other inRest)
      · next notBefore =>
          split
          · exact List.pairwise_cons.2 ascending
          · next different =>
              refine List.pairwise_cons.2 ⟨fun other member => ?_, ih ascending.2⟩
              rcases mem_addName.1 member with rfl | inRest
              · refine String.not_le.1 fun below => ?_
                exact different (String.le_antisymm below (String.not_lt.1 notBefore))
              · exact ascending.1 other inRest

structure FlagSet where
  names : List String
  ascending : names.Pairwise (· < ·)

namespace FlagSet

def empty : FlagSet :=
  { names := [], ascending := List.Pairwise.nil }

def add (flags : FlagSet) (name : String) : FlagSet :=
  { names := addName name flags.names, ascending := pairwise_addName flags.ascending }

def has (flags : FlagSet) (name : String) : Bool :=
  flags.names.contains name

@[simp] theorem names_empty : empty.names = [] := rfl

theorem mem_names_add {flags : FlagSet} {name other : String} :
    other ∈ (flags.add name).names ↔ other = name ∨ other ∈ flags.names :=
  mem_addName

end FlagSet

end HttpConsole.Request
