import HttpConsole.Http.HeaderName
import HttpConsole.Proofs.Text.Ascii

/-! The form of a header name for a reader. It does not depend on the case of the letters and keeps
all else of the name, so that two names have one form exactly if they are one name. -/

set_option autoImplicit false

namespace HttpConsole.Http

open HttpConsole.Text (asciiLower byteLength)

theorem canonicalChars_toLower (capital : Bool) (name : List Char) :
    canonicalChars capital (name.map Char.toLower) = canonicalChars capital name := by
  induction name generalizing capital with
  | nil => rfl
  | cons char rest ih =>
      have next : (char.toLower == '-') = (char == '-') := by
        apply Bool.eq_iff_iff.mpr
        rw [beq_iff_eq, beq_iff_eq]
        exact Text.toLower_eq_sign_iff rfl
      simp only [List.map_cons, canonicalChars, Text.upper_toLower, Text.lower_toLower, next, ih]

/-- A name is shown alike whatever the case of its letters. -/
theorem canonicalName_asciiLower (name : String) :
    canonicalName (asciiLower name) = canonicalName name := by
  rw [canonicalName, asciiLower, String.toList_map, canonicalChars_toLower]
  rfl

theorem isAscii_of_isTokenChar {char : Char} (token : isTokenChar char = true) :
    char.toNat < 0x80 := by
  rcases (Bool.or_eq_true ..).mp token with inside | sign
  · exact Text.isAscii_of_isAlphanum inside
  · have signs : ∀ sign ∈ tokenSigns.toList, sign.toNat < 0x80 := by simp [tokenSigns]
    exact signs char (List.contains_iff_mem.mp sign)

/-! ## One character -/

/-- What an ASCII character is shown as. -/
def canonicalChar (capital : Bool) (char : Char) : Char :=
  if capital then char.toUpper else char.toLower

theorem canonicalChars_cons {char : Char} (ascii : char.toNat < 0x80) (capital : Bool)
    (rest : List Char) : canonicalChars capital (char :: rest) =
      canonicalChar capital char :: canonicalChars (char == '-') rest := by
  cases capital with
  | false => exact congrArg (· ++ canonicalChars (char == '-') rest) (Text.lower_of_ascii ascii)
  | true => exact congrArg (· ++ canonicalChars (char == '-') rest) (Text.upper_of_ascii ascii)

theorem toLower_canonicalChar (capital : Bool) (char : Char) :
    (canonicalChar capital char).toLower = char.toLower := by
  cases capital with
  | false => exact Char.toLower_toLower_eq_toLower char
  | true => exact Char.toLower_toUpper_eq_toLower char

theorem canonicalChar_eq_dash_iff {capital : Bool} {char : Char} :
    canonicalChar capital char = '-' ↔ char = '-' := by
  cases capital with
  | false => exact Text.toLower_eq_sign_iff rfl
  | true => exact Text.toUpper_eq_sign_iff rfl

theorem isUpper_canonicalChar {capital : Bool} {char : Char}
    (letter : (canonicalChar capital char).isAlpha = true) :
    (canonicalChar capital char).isUpper = capital := by
  cases capital with
  | false => exact Char.isUpper_toLower_eq_false char
  | true =>
      have same : char.toUpper.isAlpha = char.isAlpha := Char.isAlpha_toUpper_eq_isAlpha char
      exact (Char.isUpper_toUpper_eq_isAlpha char).trans (same.symm.trans letter)

/-! ## Names of ASCII characters -/

section

variable {name : List Char} (ascii : ∀ char ∈ name, char.toNat < 0x80)
include ascii

theorem map_toLower_canonicalChars (capital : Bool) :
    (canonicalChars capital name).map Char.toLower = name.map Char.toLower := by
  induction name generalizing capital with
  | nil => rfl
  | cons char rest ih =>
      obtain ⟨first, later⟩ := List.forall_mem_cons.mp ascii
      rw [canonicalChars_cons first, List.map_cons, List.map_cons, toLower_canonicalChar, ih later]

/-- The character before a letter decides on its case; `capital` does so where there is none. -/
theorem isUpper_iff_of_canonicalChars {capital : Bool} {front behind : List Char} {char : Char}
    (parts : canonicalChars capital name = front ++ char :: behind)
    (letter : char.isAlpha = true) :
    char.isUpper = true ↔ (front = [] ∧ capital = true) ∨ front.getLast? = some '-' := by
  induction name generalizing capital front with
  | nil => cases List.append_ne_nil_of_right_ne_nil front (List.cons_ne_nil char behind) parts.symm
  | cons first rest ih =>
      obtain ⟨small, later⟩ := List.forall_mem_cons.mp ascii
      rw [canonicalChars_cons small] at parts
      rcases List.cons_eq_append_iff.mp parts with ⟨rfl, here⟩ | ⟨front, rfl, there⟩
      · obtain ⟨rfl, rfl⟩ := List.cons.inj here
        rw [isUpper_canonicalChar letter]
        simp
      · rw [ih later there, beq_iff_eq]
        cases front with
        | nil => simp [canonicalChar_eq_dash_iff]
        | cons next front => simp [List.getLast?_cons_cons]

end

theorem map_toLower_canonicalName {name : String}
    (ascii : ∀ char ∈ name.toList, char.toNat < 0x80) :
    (canonicalName name).toList.map Char.toLower = name.toList.map Char.toLower := by
  rw [canonicalName, String.toList_ofList, map_toLower_canonicalChars ascii]

theorem asciiLower_canonicalName {name : String}
    (ascii : ∀ char ∈ name.toList, char.toNat < 0x80) :
    asciiLower (canonicalName name) = asciiLower name := by
  apply String.toList_injective
  rw [asciiLower, asciiLower, String.toList_map, String.toList_map,
    map_toLower_canonicalName ascii]

/-- Two names of token characters are shown alike exactly if they differ in the case of letters only.
Showing changes nothing but this case, and nothing at all when it is repeated: the capitals are the
letters at the start and behind the dashes. -/
theorem canonicalName_tells_names_apart {name other : String}
    (token : ∀ char ∈ name.toList, isTokenChar char = true)
    (otherToken : ∀ char ∈ other.toList, isTokenChar char = true) :
    (canonicalName name = canonicalName other ↔ asciiLower name = asciiLower other) ∧
    asciiLower (canonicalName name) = asciiLower name ∧
    (canonicalName name).length = name.length ∧
    byteLength (canonicalName name).toList = byteLength name.toList ∧
    canonicalName (canonicalName name) = canonicalName name ∧
    ∀ front char behind, (canonicalName name).toList = front ++ char :: behind →
      char.isAlpha = true → (char.isUpper = true ↔ front = [] ∨ front.getLast? = some '-') := by
  have ascii := fun char member => isAscii_of_isTokenChar (token char member)
  have otherAscii := fun char member => isAscii_of_isTokenChar (otherToken char member)
  have small := map_toLower_canonicalName ascii
  have kept := asciiLower_canonicalName ascii
  refine ⟨⟨fun same => ?_, fun same => ?_⟩, kept, ?_, ?_, ?_, ?_⟩
  · rw [← kept, same, asciiLower_canonicalName otherAscii]
  · rw [← canonicalName_asciiLower name, same, canonicalName_asciiLower]
  · have lengths := congrArg List.length small
    rwa [List.length_map, List.length_map, String.length_toList, String.length_toList] at lengths
  · have lengths := congrArg byteLength small
    rwa [Text.byteLength_map_toLower, Text.byteLength_map_toLower] at lengths
  · rw [← canonicalName_asciiLower (canonicalName name), kept, canonicalName_asciiLower]
  · intro front char behind parts letter
    rw [canonicalName, String.toList_ofList] at parts
    simpa using isUpper_iff_of_canonicalChars ascii parts letter

/-- Dashes at either end and in a row, a digit that begins a part and a dot that begins none. -/
theorem canonicalName_of_dashes :
    let name := "-x--9y.z-"
    let other := "-X--9Y.z-"
    (∀ char ∈ name.toList, isTokenChar char = true) ∧
      (∀ char ∈ other.toList, isTokenChar char = true) ∧
      canonicalName name = "-X--9y.z-" ∧ canonicalName other = canonicalName name ∧
      canonicalName (canonicalName name) = canonicalName name := by
  intro name other
  have token : ∀ char ∈ name.toList, isTokenChar char = true := by
    simp [name, isTokenChar, tokenSigns]
  have otherToken : ∀ char ∈ other.toList, isTokenChar char = true := by
    simp [other, isTokenChar, tokenSigns]
  have shown : canonicalName name = "-X--9y.z-" := by decide +kernel
  have same : asciiLower other = asciiLower name := by
    apply String.toList_injective
    rw [asciiLower, asciiLower, String.toList_map, String.toList_map]
    decide
  obtain ⟨alike, -, -, -, -, -⟩ := canonicalName_tells_names_apart otherToken token
  obtain ⟨-, -, -, -, again, -⟩ := canonicalName_tells_names_apart token otherToken
  exact ⟨token, otherToken, shown, alike.mpr same, again⟩

end HttpConsole.Http
