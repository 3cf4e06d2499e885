import HttpConsole.Text.Utf8
import Mathlib.Algebra.Group.Nat.Defs

/-! A text that is written as UTF-8 reads back as it was. -/

set_option autoImplicit false

namespace HttpConsole.Text

namespace OpenSequence

variable (sequence : OpenSequence) (byte : UInt8)

@[simp] theorem code_push :
    (sequence.push byte).code = sequence.code * 64 + (byte.toNat - 0x80) := rfl

@[simp] theorem missing_push : (sequence.push byte).missing = sequence.missing - 1 := rfl

theorem accepts_iff : sequence.accepts byte = true ↔
    sequence.low.toNat ≤ byte.toNat ∧ byte.toNat ≤ sequence.high.toNat := by
  rw [accepts, Bool.and_eq_true, decide_eq_true_eq, decide_eq_true_eq, UInt8.le_iff_toNat_le,
    UInt8.le_iff_toNat_le]

theorem push_accepts_iff (next : UInt8) :
    (sequence.push byte).accepts next = true ↔ 0x80 ≤ next.toNat ∧ next.toNat ≤ 0xBF :=
  accepts_iff _ next

end OpenSequence

/-- The continuation byte with `count` more behind it, in the encoding of a character's code. -/
def tailByte (value count : Nat) : UInt8 :=
  UInt8.ofNat (value / 64 ^ count % 64 + 0x80)

def tailBytes (value : Nat) : Nat → Bytes
  | 0 => []
  | count + 1 => tailByte value count :: tailBytes value count

private theorem toNat_byte {number : Nat} (small : number < 256) :
    (UInt8.ofNat number).toNat = number :=
  UInt8.toNat_ofNat_of_lt' small

private theorem toNat_tailByte (value count : Nat) :
    (tailByte value count).toNat = value / 64 ^ count % 64 + 0x80 := by
  have small := Nat.mod_lt (value / 64 ^ count) (show 0 < 64 by decide)
  exact toNat_byte (by omega)

/-- The sequence misses one byte and `count` more of the encoding of a character's code. -/
structure OpenSequence.Begins (sequence : OpenSequence) (value count : Nat) : Prop where
  code : sequence.code = value / 64 ^ (count + 1)
  missing : sequence.missing = count + 1
  accepts : sequence.accepts (tailByte value count) = true

namespace OpenSequence.Begins

variable {sequence : OpenSequence} {value count : Nat}

theorem code_push (begins : sequence.Begins value count) :
    (sequence.push (tailByte value count)).code = value / 64 ^ count := by
  have digits : value / 64 ^ (count + 1) = value / 64 ^ count / 64 := by
    rw [Nat.pow_succ, Nat.div_div_eq_div_mul]
  rw [OpenSequence.code_push, begins.code, toNat_tailByte, digits]
  omega

theorem missing_push (begins : sequence.Begins value count) :
    (sequence.push (tailByte value count)).missing = count := by
  rw [OpenSequence.missing_push, begins.missing, Nat.add_sub_cancel]

theorem push (begins : sequence.Begins value (count + 1)) :
    (sequence.push (tailByte value (count + 1))).Begins value count where
  code := begins.code_push
  missing := begins.missing_push
  accepts := by
    have small := Nat.mod_lt (value / 64 ^ count) (show 0 < 64 by decide)
    rw [push_accepts_iff, toNat_tailByte]
    omega

end OpenSequence.Begins

theorem scalarsFrom_tailBytes {sequence : OpenSequence} {value count : Nat}
    (begins : sequence.Begins value count) (rest : Bytes) :
    scalarsFrom (some sequence) (tailBytes value (count + 1) ++ rest) =
      some (Char.ofNat value) :: scalarsFrom none rest := by
  induction count generalizing sequence with
  | zero =>
      rw [tailBytes, List.cons_append, scalarsFrom, if_pos begins.accepts,
        if_pos begins.missing_push, begins.code_push, Nat.pow_zero, Nat.div_one]
      rfl
  | succ count ih =>
      have more : ¬ (sequence.push (tailByte value (count + 1))).missing = 0 := by
        rw [begins.missing_push]
        exact Nat.succ_ne_zero count
      rw [tailBytes, List.cons_append, scalarsFrom, if_pos begins.accepts, if_neg more]
      exact ih begins.push

/-- The first byte of an encoding opens a sequence that the other bytes complete. -/
def LeadsTo (byte : UInt8) (value count : Nat) : Prop :=
  ∃ sequence, lead byte = .opens sequence ∧ sequence.Begins value count

theorem lead_eq (byte : UInt8) : lead byte =
    if byte.toNat < 0x80 then .char (Char.ofNat byte.toNat)
    else if byte.toNat < 0xC2 then .stray
    else if byte.toNat < 0xE0 then .opens { code := byte.toNat - 0xC0, missing := 1 }
    else if byte.toNat = 0xE0 then .opens { code := 0, missing := 2, low := 0xA0 }
    else if byte.toNat = 0xED then .opens { code := 0x0D, missing := 2, high := 0x9F }
    else if byte.toNat < 0xF0 then .opens { code := byte.toNat - 0xE0, missing := 2 }
    else if byte.toNat = 0xF0 then .opens { code := 0, missing := 3, low := 0x90 }
    else if byte.toNat < 0xF4 then .opens { code := byte.toNat - 0xF0, missing := 3 }
    else if byte.toNat = 0xF4 then .opens { code := 4, missing := 3, high := 0x8F }
    else .stray := by
  simp only [lead, UInt8.lt_iff_toNat_lt, ← UInt8.toNat_inj, UInt8.reduceToNat]

/-- Only a byte of ASCII is read as a character of its own. -/
theorem lead_eq_char {byte : UInt8} {char : Char} (leads : lead byte = .char char) :
    byte.toNat < 0x80 ∧ Char.ofNat byte.toNat = char := by
  rw [lead_eq] at leads
  by_cases ascii : byte.toNat < 0x80
  · rw [if_pos ascii] at leads
    exact ⟨ascii, Lead.char.inj leads⟩
  · rw [if_neg ascii] at leads
    repeat' split at leads
    all_goals cases leads

private theorem LeadsTo.of_lead {byte : UInt8} {value code count : Nat} (low high : Nat)
    (opens : lead byte = .opens
      { code := code, missing := count + 1, low := UInt8.ofNat low, high := UInt8.ofNat high })
    (same : code = value / 64 ^ (count + 1)) (within : low < 256 ∧ high < 256)
    (inside : low ≤ value / 64 ^ count % 64 + 0x80 ∧ value / 64 ^ count % 64 + 0x80 ≤ high) :
    LeadsTo byte value count := by
  refine ⟨_, opens, same, rfl, ?_⟩
  rw [OpenSequence.accepts_iff, toNat_tailByte, toNat_byte within.1, toNat_byte within.2]
  exact inside

section

variable {value : Nat}

private theorem leadsTo_two (above : 0x80 ≤ value) (below : value < 0x800) :
    LeadsTo (UInt8.ofNat (value / 64 % 32 + 0xC0)) value 0 := by
  have byte := lead_eq (UInt8.ofNat (value / 64 % 32 + 0xC0))
  rw [toNat_byte (by omega), if_neg (by omega), if_neg (by omega), if_pos (by omega)] at byte
  exact .of_lead 0x80 0xBF byte (by omega) (by decide) (by omega)

private theorem leadsTo_three (above : 0x800 ≤ value) (below : value < 0x10000)
    (scalar : value < 0xD800 ∨ 0xDFFF < value) :
    LeadsTo (UInt8.ofNat (value / 4096 % 16 + 0xE0)) value 1 := by
  have byte := lead_eq (UInt8.ofNat (value / 4096 % 16 + 0xE0))
  rw [toNat_byte (by omega), if_neg (by omega), if_neg (by omega), if_neg (by omega)] at byte
  -- Behind 0xE0 no code of two bytes may be written, behind 0xED no surrogate.
  split at byte
  case isTrue => exact .of_lead 0xA0 0xBF byte (by omega) (by decide) (by omega)
  case isFalse =>
    split at byte
    case isTrue => exact .of_lead 0x80 0x9F byte (by omega) (by decide) (by omega)
    case isFalse =>
      rw [if_pos (by omega)] at byte
      exact .of_lead 0x80 0xBF byte (by omega) (by decide) (by omega)

private theorem leadsTo_four (above : 0x10000 ≤ value) (below : value < 0x110000) :
    LeadsTo (UInt8.ofNat (value / 262144 % 8 + 0xF0)) value 2 := by
  have byte := lead_eq (UInt8.ofNat (value / 262144 % 8 + 0xF0))
  rw [toNat_byte (by omega), if_neg (by omega), if_neg (by omega), if_neg (by omega),
    if_neg (by omega), if_neg (by omega), if_neg (by omega)] at byte
  -- Behind 0xF0 no code of three bytes may be written, behind 0xF4 none above U+10FFFF.
  split at byte
  case isTrue => exact .of_lead 0x90 0xBF byte (by omega) (by decide) (by omega)
  case isFalse =>
    split at byte
    case isTrue => exact .of_lead 0x80 0xBF byte (by omega) (by decide) (by omega)
    case isFalse =>
      rw [if_pos (by omega)] at byte
      exact .of_lead 0x80 0x8F byte (by omega) (by decide) (by omega)

end

theorem utf8EncodeChar_cases (char : Char) :
    (char.toNat < 0x80 ∧ String.utf8EncodeChar char = [UInt8.ofNat char.toNat]) ∨
    ∃ byte count, LeadsTo byte char.toNat count ∧
      String.utf8EncodeChar char = byte :: tailBytes char.toNat (count + 1) := by
  have scalar : char.toNat < 0xD800 ∨ 0xDFFF < char.toNat ∧ char.toNat < 0x110000 := char.valid
  have encoded := String.utf8EncodeChar.eq_1 char
  split at encoded
  case isTrue one => exact .inl ⟨Nat.lt_succ_of_le one, encoded⟩
  case isFalse beyondOne =>
    refine .inr ?_
    split at encoded
    case isTrue two =>
      refine ⟨_, 0, leadsTo_two (Nat.lt_of_not_le beyondOne) (Nat.lt_succ_of_le two), ?_⟩
      simpa [tailBytes, tailByte] using encoded
    case isFalse beyondTwo =>
      split at encoded
      case isTrue three =>
        refine ⟨_, 1, leadsTo_three (Nat.lt_of_not_le beyondTwo) (Nat.lt_succ_of_le three) ?_, ?_⟩
        · exact scalar.imp_right And.left
        · simpa [tailBytes, tailByte] using encoded
      case isFalse beyondThree =>
        have above := Nat.lt_of_not_le beyondThree
        refine ⟨_, 2, leadsTo_four above ?_, ?_⟩
        · exact scalar.elim (Nat.lt_trans · (by decide)) And.right
        · simpa [tailBytes, tailByte] using encoded

/-- An ASCII character is written as the byte of its code. -/
theorem utf8EncodeChar_of_ascii {char : Char} (small : char.toNat < 0x80) :
    String.utf8EncodeChar char = [UInt8.ofNat char.toNat] := by
  have one : char.val.toNat ≤ 0x7F := Nat.le_of_lt_succ small
  rw [String.utf8EncodeChar, if_pos one]
  rfl

/-- No byte of a character beyond ASCII is one of an ASCII character. -/
theorem beyond_ascii_of_mem_utf8EncodeChar {char : Char} (large : 0x80 ≤ char.toNat) {byte : UInt8}
    (member : byte ∈ String.utf8EncodeChar char) : 0x80 ≤ byte.toNat := by
  have tail (value count : Nat) (part : byte ∈ tailBytes value count) : 0x80 ≤ byte.toNat := by
    induction count with
    | zero => cases part
    | succ count ih =>
        rcases List.mem_cons.mp part with rfl | later
        · rw [toNat_tailByte]
          omega
        · exact ih later
  rcases utf8EncodeChar_cases char with ⟨small, -⟩ | ⟨first, count, ⟨sequence, lead, -⟩, encoded⟩
  · omega
  · rw [encoded, List.mem_cons] at member
    rcases member with rfl | later
    · refine Nat.le_of_not_lt fun low => ?_
      rw [lead_eq, if_pos low] at lead
      cases lead
    · exact tail _ _ later

/-- What is written for a character reads back as the character. -/
theorem scalarsFrom_utf8EncodeChar (char : Char) (rest : Bytes) :
    scalarsFrom none (String.utf8EncodeChar char ++ rest) = some char :: scalarsFrom none rest := by
  rcases utf8EncodeChar_cases char with ⟨small, encoded⟩ | ⟨byte, count, leads, encoded⟩
  · have lead := lead_eq (UInt8.ofNat char.toNat)
    rw [toNat_byte (by omega), if_pos small, Char.ofNat_toNat] at lead
    rw [encoded, List.singleton_append, scalarsFrom, lead]
  · obtain ⟨sequence, lead, begins⟩ := leads
    have read := scalarsFrom_tailBytes begins rest
    rw [Char.ofNat_toNat] at read
    rw [encoded, List.cons_append, scalarsFrom, lead]
    exact read

theorem scalars_encodeChars (text : List Char) :
    scalars (encodeChars text) = text.map some := by
  induction text with
  | nil => rfl
  | cons char rest ih =>
      rw [encodeChars, List.flatMap_cons, scalars, scalarsFrom_utf8EncodeChar]
      exact congrArg (some char :: ·) ih

theorem isWellFormed_encode (text : String) : isWellFormed (encode text) = true := by
  rw [isWellFormed, encode, scalars_encodeChars, List.all_map]
  exact List.all_eq_true.mpr fun char _ => rfl

/-- Every text is read back from its encoding, as it was and without a gap. -/
theorem decode?_encode (text : String) : decode? (encode text) = some text := by
  rw [decode?, if_pos (isWellFormed_encode text), encode, scalars_encodeChars,
    List.filterMap_map, Function.id_comp, List.filterMap_some, String.ofList_toList]

theorem decodeLossy_encode (text : String) : decodeLossy (encode text) = text := by
  have scalars : scalars (encode text) = text.toList.map some := scalars_encodeChars text.toList
  have chars : (fun scalar : Option Char => scalar.getD replacement) ∘ some = id := rfl
  rw [decodeLossy, scalars, List.map_map, chars, List.map_id, String.ofList_toList]

end HttpConsole.Text
