/-!
# Splitting at separators

`splitBy` cuts a text at every separator; the pieces between are kept, empty ones too, so there
is one piece more than there are separators. `splitLast` cuts at the last one only.
-/

set_option autoImplicit false

namespace HttpConsole.Text

def splitBy (isSeparator : Char → Bool) : List Char → List (List Char)
  | [] => [[]]
  | char :: rest =>
      if isSeparator char then [] :: splitBy isSeparator rest
      else
        match splitBy isSeparator rest with
        | [] => [[char]]
        | piece :: pieces => (char :: piece) :: pieces

/-- The parts before and behind the last separator, if there is one. -/
def splitLast (isSeparator : Char → Bool) : List Char → Option (List Char × List Char)
  | [] => none
  | char :: rest =>
      match splitLast isSeparator rest with
      | some (before, behind) => some (char :: before, behind)
      | none => if isSeparator char then some ([], rest) else none

/-- The pieces hold no character that the text does not hold. -/
theorem mem_of_mem_splitBy {isSeparator : Char → Bool} {text piece : List Char} {char : Char}
    (isPiece : piece ∈ splitBy isSeparator text) (member : char ∈ piece) : char ∈ text := by
  induction text generalizing piece with
  | nil =>
      rw [splitBy, List.mem_singleton] at isPiece
      exact absurd member (isPiece ▸ List.not_mem_nil)
  | cons first rest ih =>
      rw [splitBy] at isPiece
      split at isPiece
      · rcases List.mem_cons.mp isPiece with rfl | later
        · cases member
        · exact List.mem_cons_of_mem first (ih later member)
      · split at isPiece
        · rw [List.mem_singleton.mp isPiece] at member
          exact List.mem_singleton.mp member ▸ List.mem_cons_self
        · next front pieces found =>
            rcases List.mem_cons.mp isPiece with rfl | later
            · rcases List.mem_cons.mp member with rfl | inside
              · exact List.mem_cons_self
              · exact List.mem_cons_of_mem first (ih (found ▸ List.mem_cons_self) inside)
            · exact List.mem_cons_of_mem first
                (ih (found ▸ List.mem_cons_of_mem front later) member)

end HttpConsole.Text
