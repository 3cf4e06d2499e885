/-!
# Byte offsets

A position in a text is counted in the bytes of its UTF-8 form, while the text itself is a
list of characters. `takeBytes` and `dropBytes` cut a text at such a position; the laws say that
the two parts make up the text again and that a cut between two known parts gives these parts.
`cut?` and `slice?` refuse a position that is inside a character or behind the end.
-/

set_option autoImplicit false

namespace HttpConsole.Text

def byteLength : List Char → Nat
  | [] => 0
  | char :: rest => char.utf8Size + byteLength rest

def takeBytes : Nat → List Char → List Char
  | _, [] => []
  | offset, char :: rest =>
      if char.utf8Size ≤ offset then char :: takeBytes (offset - char.utf8Size) rest else []

def dropBytes : Nat → List Char → List Char
  | _, [] => []
  | offset, char :: rest =>
      if char.utf8Size ≤ offset then dropBytes (offset - char.utf8Size) rest else char :: rest

/-- An offset between two characters of a text, or at one of its ends. -/
def IsBoundary (text : List Char) (offset : Nat) : Prop :=
  ∃ before after, text = before ++ after ∧ byteLength before = offset

@[simp] theorem byteLength_nil : byteLength [] = 0 := rfl

@[simp] theorem byteLength_cons (char : Char) (rest : List Char) :
    byteLength (char :: rest) = char.utf8Size + byteLength rest := rfl

@[simp] theorem byteLength_append (left right : List Char) :
    byteLength (left ++ right) = byteLength left + byteLength right := by
  induction left with
  | nil => simp
  | cons char rest ih => simp [ih, Nat.add_assoc]

theorem byteLength_eq_zero_iff {text : List Char} : byteLength text = 0 ↔ text = [] := by
  cases text with
  | nil => simp
  | cons char rest =>
      have := Char.utf8Size_pos char
      simp; omega

theorem takeBytes_append_dropBytes (offset : Nat) (text : List Char) :
    takeBytes offset text ++ dropBytes offset text = text := by
  induction text generalizing offset with
  | nil => rfl
  | cons char rest ih =>
      simp only [takeBytes, dropBytes]
      split <;> simp [ih]

theorem takeBytes_byteLength_append (before after : List Char) :
    takeBytes (byteLength before) (before ++ after) = before := by
  induction before with
  | nil =>
      cases after with
      | nil => rfl
      | cons char rest =>
          have := Char.utf8Size_pos char
          simp only [List.nil_append, takeBytes, byteLength_nil]
          rw [if_neg (by omega)]
  | cons char rest ih => simp [takeBytes, ih]

theorem dropBytes_byteLength_append (before after : List Char) :
    dropBytes (byteLength before) (before ++ after) = after := by
  have parts := takeBytes_append_dropBytes (byteLength before) (before ++ after)
  rw [takeBytes_byteLength_append] at parts
  exact List.append_cancel_left parts

theorem isBoundary_iff {text : List Char} {offset : Nat} :
    IsBoundary text offset ↔ byteLength (takeBytes offset text) = offset := by
  constructor
  · rintro ⟨before, after, rfl, rfl⟩
    rw [takeBytes_byteLength_append]
  · intro exact
    exact ⟨_, _, (takeBytes_append_dropBytes offset text).symm, exact⟩

instance (text : List Char) (offset : Nat) : Decidable (IsBoundary text offset) :=
  decidable_of_iff _ isBoundary_iff.symm

def cut? (offset : Nat) (text : List Char) : Option (List Char × List Char) :=
  if IsBoundary text offset then some (takeBytes offset text, dropBytes offset text) else none

def slice? (start stop : Nat) (text : List Char) : Option (List Char) := do
  let (front, _) ← cut? stop text
  let (_, middle) ← cut? start front
  return middle

/-- The byte offset of the first occurrence of a character. -/
def findFirst? (mark : Char) : List Char → Option Nat
  | [] => none
  | char :: rest =>
      if char = mark then some 0 else (findFirst? mark rest).map (char.utf8Size + ·)

/-- The byte offset of the last occurrence of a character. -/
def findLast? (mark : Char) : List Char → Option Nat
  | [] => none
  | char :: rest =>
      match findLast? mark rest with
      | some offset => some (char.utf8Size + offset)
      | none => if char = mark then some 0 else none

@[simp] theorem cut?_append (before after : List Char) :
    cut? (byteLength before) (before ++ after) = some (before, after) := by
  rw [cut?, if_pos ⟨before, after, rfl, rfl⟩, takeBytes_byteLength_append,
    dropBytes_byteLength_append]

theorem slice?_append (before middle after : List Char) :
    slice? (byteLength before) (byteLength before + byteLength middle)
      (before ++ (middle ++ after)) = some middle := by
  have front := cut?_append (before ++ middle) after
  rw [byteLength_append, List.append_assoc] at front
  simp [slice?, front]

theorem findFirst?_eq_none {mark : Char} {text : List Char} (absent : mark ∉ text) :
    findFirst? mark text = none := by
  induction text with
  | nil => rfl
  | cons char rest ih =>
      obtain ⟨different, absent⟩ := List.ne_and_not_mem_of_not_mem_cons absent
      simp [findFirst?, different.symm, ih absent]

theorem findFirst?_append_cons {mark : Char} {before : List Char} (absent : mark ∉ before)
    (after : List Char) : findFirst? mark (before ++ mark :: after) = some (byteLength before) := by
  induction before with
  | nil => simp [findFirst?]
  | cons char rest ih =>
      obtain ⟨different, absent⟩ := List.ne_and_not_mem_of_not_mem_cons absent
      simp [findFirst?, different.symm, ih absent]

theorem findLast?_eq_none {mark : Char} {text : List Char} (absent : mark ∉ text) :
    findLast? mark text = none := by
  induction text with
  | nil => rfl
  | cons char rest ih =>
      obtain ⟨different, absent⟩ := List.ne_and_not_mem_of_not_mem_cons absent
      simp [findLast?, different.symm, ih absent]

theorem findLast?_append_cons {mark : Char} (before : List Char) {after : List Char}
    (absent : mark ∉ after) :
    findLast? mark (before ++ mark :: after) = some (byteLength before) := by
  induction before with
  | nil => simp [findLast?, findLast?_eq_none absent]
  | cons char rest ih => simp [findLast?, ih]

end HttpConsole.Text
