import HttpConsole.Proofs.Text.Utf8
import Mathlib

/-! Which bytes are UTF-8, said by the bits of the bytes and by the codes that they make up. The
ranges that the reader goes by accept exactly these, and what it reads is written with the same bytes
again. -/

set_option autoImplicit false

namespace HttpConsole.Text

def isContinuation (byte : UInt8) : Bool :=
  0x80 ≤ byte && byte < 0xC0

/-- How many continuation bytes a first byte announces by the bits that it begins with. -/
def announced? (byte : UInt8) : Option Nat :=
  if byte < 0x80 then some 0
  else if byte < 0xC0 then none
  else if byte < 0xE0 then some 1
  else if byte < 0xF0 then some 2
  else if byte < 0xF8 then some 3
  else none

/-- The bits that announce so many continuation bytes. -/
def leadMark : Nat → Nat
  | 0 => 0
  | 1 => 0xC0
  | 2 => 0xE0
  | _ => 0xF0

/-- The code that a first byte and continuation bytes make up, six bits from each of the latter. -/
def codeOf (first : UInt8) (tail : Bytes) : Nat :=
  tail.foldl (fun code byte => code * 64 + (byte.toNat - 0x80)) (first.toNat - leadMark tail.length)

/-- The least code that needs so many continuation bytes. -/
def leastCode : Nat → Nat
  | 0 => 0
  | 1 => 0x80
  | 2 => 0x800
  | _ => 0x10000

/-- The bytes of one character. -/
structure IsSequence (first : UInt8) (tail : Bytes) : Prop where
  announced : announced? first = some tail.length
  continued : ∀ byte ∈ tail, isContinuation byte = true
  shortest : leastCode tail.length ≤ codeOf first tail
  scalar : (codeOf first tail).isValidChar

inductive IsUtf8 : Bytes → Prop where
  | nil : IsUtf8 []
  | cons {first : UInt8} {tail rest : Bytes} :
      IsSequence first tail → IsUtf8 rest → IsUtf8 (first :: (tail ++ rest))

section

variable {byte : UInt8}

theorem isContinuation_iff :
    isContinuation byte = true ↔ 0x80 ≤ byte.toNat ∧ byte.toNat < 0xC0 := by
  rw [isContinuation, Bool.and_eq_true, decide_eq_true_eq, decide_eq_true_eq,
    UInt8.le_iff_toNat_le, UInt8.lt_iff_toNat_lt]
  rfl

theorem announced?_eq (byte : UInt8) : announced? byte =
    if byte.toNat < 0x80 then some 0
    else if byte.toNat < 0xC0 then none
    else if byte.toNat < 0xE0 then some 1
    else if byte.toNat < 0xF0 then some 2
    else if byte.toNat < 0xF8 then some 3
    else none := by
  simp only [announced?, UInt8.lt_iff_toNat_lt, UInt8.reduceToNat]

theorem announced?_of_isContinuation (continued : isContinuation byte = true) :
    announced? byte = none := by
  obtain ⟨above, below⟩ := isContinuation_iff.mp continued
  rw [announced?_eq, if_neg (by omega), if_pos below]

theorem announced?_cases {count : Nat} (announced : announced? byte = some count) :
    (count = 0 ∧ byte.toNat < 0x80) ∨
    (count = 1 ∧ 0xC0 ≤ byte.toNat ∧ byte.toNat < 0xE0) ∨
    (count = 2 ∧ 0xE0 ≤ byte.toNat ∧ byte.toNat < 0xF0) ∨
    (count = 3 ∧ 0xF0 ≤ byte.toNat ∧ byte.toNat < 0xF8) := by
  rw [announced?_eq] at announced
  repeat' split at announced
  all_goals simp only [reduceCtorEq, Option.some.injEq] at announced
  all_goals omega

end

/-! ## Sequences of each length -/

section

variable {first next third last : UInt8}

theorem isSequence_one (ascii : first.toNat < 0x80) : IsSequence first [] where
  announced := by rw [announced?_eq, if_pos ascii]; rfl
  continued := fun byte member => absurd member List.not_mem_nil
  shortest := Nat.zero_le _
  scalar := .inl (by simp only [codeOf, leadMark, List.foldl, List.length]; omega)

theorem isSequence_two (lead : 0xC2 ≤ first.toNat ∧ first.toNat < 0xE0)
    (continued : ∀ byte ∈ [last], isContinuation byte = true) : IsSequence first [last] := by
  have range := isContinuation_iff.mp (continued last (by simp))
  refine ⟨?_, continued, ?_, ?_⟩
  · rw [announced?_eq, if_neg (by omega), if_neg (by omega), if_pos (by omega)]
    rfl
  all_goals simp only [codeOf, leadMark, leastCode, List.foldl, List.length, Nat.isValidChar]; omega

theorem isSequence_three (lead : 0xE0 ≤ first.toNat ∧ first.toNat < 0xF0)
    (continued : ∀ byte ∈ [next, last], isContinuation byte = true)
    (shortest : first.toNat = 0xE0 → 0xA0 ≤ next.toNat)
    (scalar : first.toNat = 0xED → next.toNat < 0xA0) : IsSequence first [next, last] := by
  have range := isContinuation_iff.mp (continued next (by simp))
  have lastRange := isContinuation_iff.mp (continued last (by simp))
  refine ⟨?_, continued, ?_, ?_⟩
  · rw [announced?_eq, if_neg (by omega), if_neg (by omega), if_neg (by omega), if_pos (by omega)]
    rfl
  all_goals simp only [codeOf, leadMark, leastCode, List.foldl, List.length, Nat.isValidChar]; omega

theorem isSequence_four (lead : 0xF0 ≤ first.toNat ∧ first.toNat < 0xF5)
    (continued : ∀ byte ∈ [next, third, last], isContinuation byte = true)
    (shortest : first.toNat = 0xF0 → 0x90 ≤ next.toNat)
    (scalar : first.toNat = 0xF4 → next.toNat < 0x90) : IsSequence first [next, third, last] := by
  have range := isContinuation_iff.mp (continued next (by simp))
  have thirdRange := isContinuation_iff.mp (continued third (by simp))
  have lastRange := isContinuation_iff.mp (continued last (by simp))
  refine ⟨?_, continued, ?_, ?_⟩
  · rw [announced?_eq, if_neg (by omega), if_neg (by omega), if_neg (by omega), if_neg (by omega),
      if_pos (by omega)]
    rfl
  all_goals simp only [codeOf, leadMark, leastCode, List.foldl, List.length, Nat.isValidChar]; omega

end

/-! ## What the reader accepts -/

/-- Behind the bytes that have been read, whatever completes the open sequence completes the bytes of
a character. -/
def OpenSequence.Continues (sequence : OpenSequence) (first : UInt8) (read : Bytes) : Prop :=
  ∀ next rest, sequence.accepts next = true → rest.length = (sequence.push next).missing →
    (∀ byte ∈ rest, isContinuation byte = true) → IsSequence first (read ++ next :: rest)

/-- Behind some first bytes the range of the second one is narrow, so that no code is written too
long, is that of a surrogate or is too large. -/
theorem lead_eq_opens {byte : UInt8} {sequence : OpenSequence}
    (leads : lead byte = .opens sequence) :
    0x80 ≤ sequence.low.toNat ∧ sequence.high.toNat < 0xC0 ∧
    ((sequence.missing = 1 ∧ 0xC2 ≤ byte.toNat ∧ byte.toNat < 0xE0) ∨
      (sequence.missing = 2 ∧ (0xE0 ≤ byte.toNat ∧ byte.toNat < 0xF0) ∧
        (byte.toNat = 0xE0 → 0xA0 ≤ sequence.low.toNat) ∧
        (byte.toNat = 0xED → sequence.high.toNat < 0xA0)) ∨
      (sequence.missing = 3 ∧ (0xF0 ≤ byte.toNat ∧ byte.toNat < 0xF5) ∧
        (byte.toNat = 0xF0 → 0x90 ≤ sequence.low.toNat) ∧
        (byte.toNat = 0xF4 → sequence.high.toNat < 0x90))) := by
  rw [lead_eq] at leads
  repeat' split at leads
  all_goals simp only [reduceCtorEq, Lead.opens.injEq] at leads
  all_goals subst leads
  all_goals simp only [UInt8.reduceToNat, true_and]; omega

namespace OpenSequence.Continues

variable {sequence : OpenSequence} {first : UInt8}

theorem of_lead (leads : lead first = .opens sequence) : sequence.Continues first [] := by
  intro next rest accepted length continued
  obtain ⟨above, below⟩ := (accepts_iff ..).mp accepted
  rw [missing_push] at length
  obtain ⟨low, high, ranges⟩ := lead_eq_opens leads
  have inside : isContinuation next = true := isContinuation_iff.mpr ⟨by omega, by omega⟩
  have all : ∀ byte ∈ next :: rest, isContinuation byte = true :=
    List.forall_mem_cons.mpr ⟨inside, continued⟩
  rcases ranges with ⟨missing, range⟩ | ⟨missing, range, shortest, scalar⟩ |
    ⟨missing, range, shortest, scalar⟩ <;> rw [missing] at length
  · obtain rfl := List.length_eq_zero_iff.mp length
    exact isSequence_two range all
  · obtain ⟨last, rfl⟩ := List.length_eq_one_iff.mp length
    exact isSequence_three range all (by omega) (by omega)
  · obtain ⟨third, last, rfl⟩ := List.length_eq_two.mp length
    exact isSequence_four range all (by omega) (by omega)

theorem push {read : Bytes} {byte : UInt8} (continues : sequence.Continues first read)
    (accepted : sequence.accepts byte = true) (more : (sequence.push byte).missing ≠ 0) :
    (sequence.push byte).Continues first (read ++ [byte]) := by
  intro next rest acceptedNext length continued
  have range := (push_accepts_iff ..).mp acceptedNext
  have inside : isContinuation next = true := isContinuation_iff.mpr ⟨range.1, by omega⟩
  rw [List.append_assoc, List.singleton_append]
  refine continues byte (next :: rest) accepted ?_ (List.forall_mem_cons.mpr ⟨inside, continued⟩)
  rw [List.length_cons, length, missing_push]
  omega

end OpenSequence.Continues

/-- What is read without a gap, where no sequence is open and behind the bytes of an open one. -/
theorem isUtf8_of_isSome (bytes : Bytes) :
    ((scalarsFrom none bytes).all Option.isSome = true → IsUtf8 bytes) ∧
    ∀ {sequence : OpenSequence} {first : UInt8} {read : Bytes}, sequence.Continues first read →
      (scalarsFrom (some sequence) bytes).all Option.isSome = true →
        IsUtf8 (first :: (read ++ bytes)) := by
  induction bytes with
  | nil => exact ⟨fun _ => .nil, fun _ gap => by cases gap⟩
  | cons byte rest ih =>
      constructor
      · intro whole
        rw [scalarsFrom] at whole
        split at whole
        · next char leads => exact .cons (isSequence_one (lead_eq_char leads).1) (ih.1 whole)
        · next sequence leads => exact ih.2 (.of_lead leads) whole
        -- A stray byte is a gap at the head of what is read.
        · cases whole
      · intro sequence first read continues whole
        rw [scalarsFrom] at whole
        split at whole
        · next accepted =>
            dsimp only at whole
            split at whole
            · next complete =>
                have sequence := continues byte [] accepted complete.symm (by simp)
                rw [List.append_cons]
                exact .cons sequence (ih.1 whole)
            · next more =>
                rw [List.append_cons]
                exact ih.2 (continues.push accepted more) whole
        · cases whole

/-! ## What is written -/

private theorem ofNat_eq {number : Nat} {byte : UInt8} (same : number = byte.toNat) :
    UInt8.ofNat number = byte := by
  rw [same, UInt8.ofNat_toNat]

theorem IsSequence.utf8EncodeChar_eq {first : UInt8} {tail : Bytes}
    (sequence : IsSequence first tail) :
    String.utf8EncodeChar (Char.ofNat (codeOf first tail)) = first :: tail := by
  have code : (Char.ofNat (codeOf first tail)).val.toNat = codeOf first tail := by
    rw [Char.toNat_val, Char.toNat_ofNat, if_pos sequence.scalar]
  have least := sequence.shortest
  have range := fun byte member => isContinuation_iff.mp (sequence.continued byte member)
  rw [String.utf8EncodeChar.eq_1, code]
  rcases announced?_cases sequence.announced with
    ⟨length, lead⟩ | ⟨length, lead⟩ | ⟨length, lead⟩ | ⟨length, lead⟩
  · obtain rfl := List.length_eq_zero_iff.mp length
    simp only [codeOf, leadMark, List.foldl, List.length] at least ⊢
    rw [if_pos (by omega)]
    simp only [List.cons.injEq, and_true]
    exact ofNat_eq (by omega)
  · obtain ⟨last, rfl⟩ := List.length_eq_one_iff.mp length
    have lastRange := range last (by simp)
    simp only [codeOf, leadMark, leastCode, List.foldl, List.length] at least ⊢
    rw [if_neg (by omega), if_pos (by omega)]
    simp only [List.cons.injEq, and_true]
    exact ⟨ofNat_eq (by omega), ofNat_eq (by omega)⟩
  · obtain ⟨third, last, rfl⟩ := List.length_eq_two.mp length
    have thirdRange := range third (by simp)
    have lastRange := range last (by simp)
    simp only [codeOf, leadMark, leastCode, List.foldl, List.length] at least ⊢
    rw [if_neg (by omega), if_neg (by omega), if_pos (by omega)]
    simp only [List.cons.injEq, and_true]
    exact ⟨ofNat_eq (by omega), ofNat_eq (by omega), ofNat_eq (by omega)⟩
  · obtain ⟨next, third, last, rfl⟩ := List.length_eq_three.mp length
    have nextRange := range next (by simp)
    have thirdRange := range third (by simp)
    have lastRange := range last (by simp)
    simp only [codeOf, leadMark, leastCode, List.foldl, List.length] at least ⊢
    rw [if_neg (by omega), if_neg (by omega), if_neg (by omega)]
    simp only [List.cons.injEq, and_true]
    exact ⟨ofNat_eq (by omega), ofNat_eq (by omega), ofNat_eq (by omega), ofNat_eq (by omega)⟩

theorem IsUtf8.exists_encode {bytes : Bytes} (utf8 : IsUtf8 bytes) :
    ∃ text, encode text = bytes := by
  induction utf8 with
  | nil => exact ⟨"", rfl⟩
  | @cons first tail rest sequence _ ih =>
      obtain ⟨text, encoded⟩ := ih
      refine ⟨String.ofList (Char.ofNat (codeOf first tail) :: text.toList), ?_⟩
      rw [encode, String.toList_ofList, encodeChars, List.flatMap_cons, sequence.utf8EncodeChar_eq]
      exact congrArg (first :: tail ++ ·) encoded

theorem isWellFormed_iff {bytes : Bytes} : isWellFormed bytes = true ↔ IsUtf8 bytes := by
  constructor
  · exact (isUtf8_of_isSome bytes).1
  · intro utf8
    obtain ⟨text, rfl⟩ := utf8.exists_encode
    exact isWellFormed_encode text

/-- The bytes that are made up of characters are those that a text is written with. -/
theorem isUtf8_iff_exists {bytes : Bytes} : IsUtf8 bytes ↔ ∃ text, encode text = bytes := by
  refine ⟨IsUtf8.exists_encode, ?_⟩
  rintro ⟨text, rfl⟩
  exact isWellFormed_iff.mp (isWellFormed_encode text)

theorem IsUtf8.encode_decodeLossy {bytes : Bytes} (utf8 : IsUtf8 bytes) :
    encode (decodeLossy bytes) = bytes := by
  obtain ⟨text, rfl⟩ := utf8.exists_encode
  rw [decodeLossy_encode]

/-- A gap leaves its mark in the text that is read. -/
theorem isWellFormed_of_decodeLossy {bytes : Bytes}
    (unmarked : replacement ∉ (decodeLossy bytes).toList) : isWellFormed bytes = true := by
  rw [decodeLossy, String.toList_ofList] at unmarked
  refine List.all_eq_true.mpr fun scalar member => ?_
  cases scalar with
  | none => exact absurd (List.mem_map_of_mem member) unmarked
  | some char => rfl

/-! ## What no text is written with -/

/-- A first byte and the bytes behind it that are not those of a character, before some rest. -/
inductive Malformed (first : UInt8) (tail rest : Bytes) : Prop where
  | overlong (announced : announced? first = some tail.length)
      (small : codeOf first tail < leastCode tail.length)
  | surrogate (announced : announced? first = some tail.length)
      (range : 0xD800 ≤ codeOf first tail ∧ codeOf first tail ≤ 0xDFFF)
  | tooLarge (announced : announced? first = some tail.length)
      (large : 0x10FFFF < codeOf first tail)
  | truncated {count : Nat} (announced : announced? first = some count) (short : tail.length < count)
      (ended : ∀ next ∈ rest.head?, isContinuation next = false)

theorem Malformed.isContinuation_eq_false {first : UInt8} {tail rest : Bytes}
    (malformed : Malformed first tail rest) : isContinuation first = false := by
  apply Bool.eq_false_iff.mpr
  intro continued
  have none := announced?_of_isContinuation continued
  cases malformed with
  | overlong announced | surrogate announced | tooLarge announced | truncated announced =>
      rw [none] at announced
      cases announced

/-- A byte that does not continue a character begins one. -/
theorem IsUtf8.of_append {front behind : Bytes} {first : UInt8}
    (utf8 : IsUtf8 (front ++ first :: behind)) (leads : isContinuation first = false) :
    IsUtf8 (first :: behind) := by
  generalize whole : front ++ first :: behind = bytes at utf8
  induction utf8 generalizing front with
  | nil => exact absurd whole (by simp)
  | @cons lead tail rest sequence following ih =>
      cases front with
      | nil =>
          obtain ⟨rfl, rfl⟩ := List.cons.inj whole
          exact .cons sequence following
      | cons byte front =>
          obtain ⟨-, parts⟩ := List.cons.inj whole
          -- A character that reached over the byte would hold it as a continuation byte.
          rcases List.append_eq_append_iff.mp parts with ⟨between, inside, begins⟩ |
            ⟨between, -, later⟩
          · cases between with
            | nil =>
                rw [List.nil_append] at begins
                rwa [begins]
            | cons same between =>
                obtain ⟨rfl, -⟩ := List.cons.inj begins
                have continued := sequence.continued first (by simp [inside])
                rw [leads] at continued
                cases continued
          · exact ih later.symm

theorem IsUtf8.exists_sequence {first : UInt8} {behind : Bytes} (utf8 : IsUtf8 (first :: behind)) :
    ∃ tail rest, tail ++ rest = behind ∧ IsSequence first tail := by
  cases utf8 with
  | cons sequence following => exact ⟨_, _, rfl, sequence⟩

theorem Malformed.not_isUtf8 {first : UInt8} {tail rest : Bytes}
    (malformed : Malformed first tail rest) (front : Bytes) :
    ¬ IsUtf8 (front ++ first :: (tail ++ rest)) := by
  intro utf8
  obtain ⟨other, behind, parts, sequence⟩ :=
    (utf8.of_append malformed.isContinuation_eq_false).exists_sequence
  have same (announced : announced? first = some tail.length) : IsSequence first tail := by
    have length := Option.some.inj (sequence.announced.symm.trans announced)
    exact List.append_inj_left parts length ▸ sequence
  cases malformed with
  | overlong announced small => exact Nat.not_le.mpr small (same announced).shortest
  | surrogate announced range =>
      have scalar := (same announced).scalar
      omega
  | tooLarge announced large =>
      have scalar := (same announced).scalar
      omega
  | truncated announced short ended =>
      -- The bytes that are missing would have to come from the rest.
      have length := Option.some.inj (sequence.announced.symm.trans announced)
      rcases List.append_eq_append_iff.mp parts with ⟨between, grown, -⟩ | ⟨between, grown, next⟩
      · rw [grown, List.length_append] at short
        omega
      · cases between with
        | nil =>
            rw [grown, List.append_nil] at length
            omega
        | cons byte between =>
            have continued := sequence.continued byte (by simp [grown])
            rw [ended byte (by simp [next])] at continued
            cases continued

end HttpConsole.Text
