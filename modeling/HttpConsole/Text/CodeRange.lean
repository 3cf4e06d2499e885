/-!
# Sets of characters given by ranges

A property of characters is a list of ranges of code points, first and last included.
-/

set_option autoImplicit false

namespace HttpConsole.Text

/-- Ranges of code points, each given by its first and its last code point. -/
abbrev CodeRanges := List (Nat × Nat)

def CodeRanges.has (ranges : CodeRanges) (char : Char) : Bool :=
  ranges.any fun (first, last) => first ≤ char.toNat && char.toNat ≤ last

theorem CodeRanges.has_iff {ranges : CodeRanges} {char : Char} :
    ranges.has char = true ↔
      ∃ range ∈ ranges, range.1 ≤ char.toNat ∧ char.toNat ≤ range.2 := by
  simp [CodeRanges.has]

end HttpConsole.Text
