import HttpConsole.Text.Width
import Mathlib.Algebra.GroupWithZero.Nat

/-! How many cells a text takes on a terminal, compared with how many characters it has. -/

set_option autoImplicit false

namespace HttpConsole.Text

/-- The cells of a text, if none of its clusters has to be left out. -/
def cellCount (text : List Char) : Nat :=
  ((clusters text).map clusterWidth).sum

/-- A character that always is a cluster of its own, and takes one cell. -/
structure IsNarrow (char : Char) : Prop where
  other : BreakClass.of char = .other
  width : charWidth char = 1

theorem clustersFrom_of_other {text : List Char}
    (other : ∀ char ∈ text, BreakClass.of char = .other) {state : ClusterState}
    (last : state.last = .other) (current : List Char) :
    clustersFrom state current text = current.reverse :: text.map fun char => [char] := by
  induction text generalizing state current with
  | nil => rfl
  | cons char rest ih =>
      have next := other char List.mem_cons_self
      have apart : state.joins .other = false := by
        simp only [ClusterState.joins, last]
      have started : (ClusterState.start .other).last = .other := rfl
      have later := ih (fun more member => other more (List.mem_cons_of_mem char member)) started
        [char]
      simp only [clustersFrom, next, apart, later]
      rfl

theorem clusters_of_other {text : List Char}
    (other : ∀ char ∈ text, BreakClass.of char = .other) :
    clusters text = text.map fun char => [char] := by
  cases text with
  | nil => rfl
  | cons char rest =>
      have first := other char List.mem_cons_self
      have later (more : Char) (member : more ∈ rest) :=
        other more (List.mem_cons_of_mem char member)
      exact clustersFrom_of_other later (by rw [first]; rfl) [char]

theorem cellCount_of_narrow {text : List Char} (narrow : ∀ char ∈ text, IsNarrow char) :
    cellCount text = text.length := by
  have widths : (text.map fun char => [char]).map clusterWidth = text.map fun _ => 1 := by
    rw [List.map_map]
    exact List.map_congr_left fun char member => (narrow char member).width
  rw [cellCount, clusters_of_other fun char member => (narrow char member).other, widths,
    List.map_const', List.sum_replicate_nat, Nat.mul_one]

theorem isNarrow_of_ascii {char : Char} (low : 0x20 ≤ char.toNat) (high : char.toNat < 0x7F) :
    IsNarrow char where
  other := by
    unfold BreakClass.of
    dsimp only
    rw [if_neg (by omega), if_neg (by omega), if_neg (by omega), if_pos high]
  width := if_pos high

end HttpConsole.Text
