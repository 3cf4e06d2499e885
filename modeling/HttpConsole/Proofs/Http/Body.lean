import HttpConsole.Http.Body
import HttpConsole.Proofs.Text.WellFormed

/-! Bodies as they are shown. A body is shown as the text that it was written from, or a notice is
shown in its place. -/

set_option autoImplicit false

namespace HttpConsole.Http

open HttpConsole.Text (Bytes IsUtf8 Malformed decodeLossy encode)

theorem bodyText_utf8_of_isUtf8 {body : Bytes} (utf8 : IsUtf8 body) :
    bodyText .utf8 body = decodeLossy body := by
  simp [bodyText, BodyCheck.isBinary, Text.isWellFormed_iff.mpr utf8]

theorem bodyText_utf8_of_not_isUtf8 {body : Bytes} (broken : ¬ IsUtf8 body) :
    bodyText .utf8 body = binaryNotice := by
  have gaps : Text.isWellFormed body = false :=
    Bool.eq_false_iff.mpr fun whole => broken (Text.isWellFormed_iff.mp whole)
  simp [bodyText, BodyCheck.isBinary, gaps]

theorem bodyText_zeroByte (body : Bytes) :
    bodyText .zeroByte body = if 0 ∈ body then binaryNotice else decodeLossy body := by
  simp [bodyText, BodyCheck.isBinary]

/-- Only its own bytes are read as the notice. -/
theorem decodeLossy_eq_binaryNotice_iff {body : Bytes} :
    decodeLossy body = binaryNotice ↔ body = encode binaryNotice := by
  constructor
  · intro read
    have unmarked : Text.replacement ∉ (decodeLossy body).toList := by
      rw [read]
      decide +kernel
    have utf8 := Text.isWellFormed_iff.mp (Text.isWellFormed_of_decodeLossy unmarked)
    rw [← read, utf8.encode_decodeLossy]
  · rintro rfl
    exact Text.decodeLossy_encode binaryNotice

/-- With the check for UTF-8 a body is shown as the text whose bytes it is, and the notice is shown
for all that is no text: anything that holds a character that is written too long, a surrogate, a
code above U+10FFFF or a part of a character. With the check for zero bytes a text is shown alike,
and the notice is shown for bodies with a zero byte and for the notice itself. -/
theorem text_body_is_shown_unchanged (body : Bytes) :
    (¬ IsUtf8 body → bodyText .utf8 body = binaryNotice) ∧
    (IsUtf8 body → encode (bodyText .utf8 body) = body) ∧
    (IsUtf8 body ↔ ∃ text, encode text = body) ∧
    (∀ front first tail rest, body = front ++ first :: (tail ++ rest) →
      Malformed first tail rest → bodyText .utf8 body = binaryNotice) ∧
    (bodyText .zeroByte body = binaryNotice ↔ 0 ∈ body ∨ decodeLossy body = binaryNotice) ∧
    (decodeLossy body = binaryNotice ↔ body = encode binaryNotice) ∧
    (IsUtf8 body → 0 ∉ body → bodyText .zeroByte body = bodyText .utf8 body) := by
  refine ⟨bodyText_utf8_of_not_isUtf8, fun utf8 => ?_, Text.isUtf8_iff_exists, ?_, ?_,
    decodeLossy_eq_binaryNotice_iff, fun utf8 clean => ?_⟩
  · rw [bodyText_utf8_of_isUtf8 utf8, utf8.encode_decodeLossy]
  · rintro front first tail rest rfl malformed
    exact bodyText_utf8_of_not_isUtf8 (malformed.not_isUtf8 front)
  · rw [bodyText_zeroByte]
    by_cases zero : 0 ∈ body
    · rw [if_pos zero]
      exact iff_of_true rfl (.inl zero)
    · rw [if_neg zero, or_iff_right zero]
  · rw [bodyText_zeroByte, if_neg clean, bodyText_utf8_of_isUtf8 utf8]

/-- A zero that is written too long passes for a text with the check for zero bytes only. A text
without a zero passes for one with both. -/
theorem text_body_of_overlong_zero :
    let body : Bytes := [0x61, 0xC0, 0x80, 0x62]
    let text := encode "aé"
    Malformed 0xC0 [0x80] [0x62] ∧ bodyText .utf8 body = binaryNotice ∧
      0 ∉ body ∧ bodyText .zeroByte body = "a\uFFFD\uFFFDb" ∧
      encode (bodyText .utf8 text) = text ∧ bodyText .zeroByte text = bodyText .utf8 text := by
  intro body text
  have malformed : Malformed 0xC0 [0x80] [0x62] := .overlong rfl (by decide)
  have utf8 : IsUtf8 text := Text.isUtf8_iff_exists.mpr ⟨"aé", rfl⟩
  have clean : 0 ∉ text := by decide +kernel
  obtain ⟨-, -, -, notice, -⟩ := text_body_is_shown_unchanged body
  obtain ⟨-, shown, -, -, -, -, alike⟩ := text_body_is_shown_unchanged text
  exact ⟨malformed, notice [0x61] 0xC0 [0x80] [0x62] rfl malformed, by decide, by decide +kernel,
    shown utf8, alike utf8 clean⟩

end HttpConsole.Http
