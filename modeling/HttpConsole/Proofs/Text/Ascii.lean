import HttpConsole.Text.Case
import HttpConsole.Text.Offset
import Mathlib

/-! ASCII characters. On them the change of case is the familiar one, which keeps their number of
bytes, and the characters beyond ASCII have no part in it. -/

set_option autoImplicit false

namespace HttpConsole.Text

variable {char : Char}

theorem isAscii_of_isUpper (capital : char.isUpper = true) :
    char.toNat < 0x80 ∧ char.toLower.toNat < 0x80 := by
  have range : 65 ≤ char.toNat ∧ char.toNat ≤ 90 := by
    simpa [Char.isUpper, UInt32.le_iff_toNat_le] using capital
  have valid : (char.toNat + 32).isValidChar := .inl (by omega)
  rw [Char.toLower_eq_of_isUpper capital, Char.toNat_ofNat, if_pos valid]
  omega

theorem isAscii_of_isAlphanum (inside : char.isAlphanum = true) : char.toNat < 0x80 := by
  rcases (Bool.or_eq_true ..).mp inside with letter | digit
  · rcases (Bool.or_eq_true ..).mp letter with upper | lower
    · exact (isAscii_of_isUpper upper).1
    · have bound : char.val ≤ 'z'.val := of_decide_eq_true ((Bool.and_eq_true ..).mp lower).2
      exact Nat.lt_of_le_of_lt (UInt32.le_iff_toNat_le.mp bound) (by decide)
  · exact Nat.lt_of_le_of_lt (Char.isDigit_iff_toNat.mp digit).2 (by decide)

theorem upper_of_ascii (ascii : char.toNat < 0x80) : upper char = [char.toUpper] :=
  if_pos ascii

theorem lower_of_ascii (ascii : char.toNat < 0x80) : lower char = [char.toLower] :=
  if_pos ascii

theorem upper_toLower (char : Char) : upper char.toLower = upper char := by
  by_cases capital : char.isUpper = true
  · obtain ⟨before, after⟩ := isAscii_of_isUpper capital
    rw [upper_of_ascii before, upper_of_ascii after, Char.toUpper_toLower_eq_toUpper]
  · rw [Char.toLower_eq_of_not_isUpper capital]

theorem lower_toLower (char : Char) : lower char.toLower = lower char := by
  by_cases capital : char.isUpper = true
  · obtain ⟨before, after⟩ := isAscii_of_isUpper capital
    rw [lower_of_ascii before, lower_of_ascii after, Char.toLower_toLower_eq_toLower]
  · rw [Char.toLower_eq_of_not_isUpper capital]

theorem toLower_eq_sign_iff {sign : Char} (noLetter : sign.isAlpha = false) :
    char.toLower = sign ↔ char = sign := by
  by_cases capital : char.isUpper = true
  · have letter : char.isAlpha = true := by rw [Char.isAlpha, capital, Bool.true_or]
    constructor
    · rintro rfl
      rw [Char.isAlpha_toLower_eq_isAlpha, letter] at noLetter
      cases noLetter
    · rintro rfl
      rw [letter] at noLetter
      cases noLetter
  · rw [Char.toLower_eq_of_not_isUpper capital]

theorem toUpper_eq_sign_iff {sign : Char} (noLetter : sign.isAlpha = false) :
    char.toUpper = sign ↔ char = sign := by
  rw [← toLower_eq_sign_iff noLetter, Char.toLower_toUpper_eq_toLower,
    toLower_eq_sign_iff noLetter]

theorem utf8Size_of_ascii (ascii : char.toNat < 0x80) : char.utf8Size = 1 := by
  apply Char.utf8Size_eq_one_iff.mpr
  exact UInt32.le_iff_toNat_le.mpr (Nat.le_of_lt_succ ascii)

theorem utf8Size_toLower (char : Char) : char.toLower.utf8Size = char.utf8Size := by
  by_cases capital : char.isUpper = true
  · obtain ⟨before, after⟩ := isAscii_of_isUpper capital
    rw [utf8Size_of_ascii before, utf8Size_of_ascii after]
  · rw [Char.toLower_eq_of_not_isUpper capital]

theorem byteLength_map_toLower (text : List Char) :
    byteLength (text.map Char.toLower) = byteLength text := by
  induction text with
  | nil => rfl
  | cons char rest ih => rw [List.map_cons, byteLength_cons, byteLength_cons, utf8Size_toLower, ih]

end HttpConsole.Text
