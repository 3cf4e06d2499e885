import HttpConsole.Proofs.Text.Ascii
import HttpConsole.Proofs.Text.Utf8
import HttpConsole.Text.Line

/-! Texts that stay on one line. A text is on one line if all its parts are, whether they are numbers,
letters that changed their case or bytes that were decoded; and lines that are joined can be told
apart again. -/

set_option autoImplicit false

namespace HttpConsole.Text

/-- A text without a line feed. -/
def IsOneLine (text : String) : Prop := '\n' ∉ text.toList

instance (text : String) : Decidable (IsOneLine text) :=
  inferInstanceAs (Decidable ('\n' ∉ text.toList))

theorem isOneLine_ofList {text : List Char} : IsOneLine (String.ofList text) ↔ '\n' ∉ text := by
  rw [IsOneLine, String.toList_ofList]

theorem IsOneLine.append {left right : String} (first : IsOneLine left)
    (second : IsOneLine right) : IsOneLine (left ++ right) := by
  rw [IsOneLine, String.toList_append, List.mem_append]
  exact fun present => present.elim first second

theorem isOneLine_join {parts : List String} (oneLine : ∀ part ∈ parts, IsOneLine part) :
    IsOneLine (String.join parts) := by
  rw [IsOneLine, String.toList_join, List.mem_flatMap]
  rintro ⟨part, member, present⟩
  exact oneLine part member present

theorem isOneLine_intercalate {separator : String} {parts : List String}
    (apart : IsOneLine separator) (oneLine : ∀ part ∈ parts, IsOneLine part) :
    IsOneLine (separator.intercalate parts) := by
  induction parts with
  | nil => exact List.not_mem_nil
  | cons part rest ih =>
      have first := oneLine part List.mem_cons_self
      have later := ih fun other member => oneLine other (List.mem_cons_of_mem part member)
      cases rest with
      | nil => rwa [String.intercalate_singleton]
      | cons next others =>
          rw [String.intercalate_cons_cons]
          exact (first.append apart).append later

/-- The digits of a number are on one line, in every base that has a digit for each remainder. -/
theorem newline_notMem_toDigits {base : Nat} (several : 1 < base) (number : Nat) :
    '\n' ∉ Nat.toDigits base number := by
  induction number using Nat.strongRecOn with
  | ind number ih =>
      by_cases small : number < base
      · rw [Nat.toDigits_of_lt_base small, List.mem_singleton]
        exact (Nat.digitChar_ne '\n' (by decide)).symm
      · have positive : 0 < number / base := Nat.div_pos (Nat.not_lt.mp small) (by omega)
        have last := Nat.mod_lt number (show 0 < base by omega)
        have shorter : number / base < number := Nat.div_lt_self (by omega) several
        have split := Nat.toDigits_append_toDigits several positive last
        rw [Nat.div_add_mod] at split
        rw [← split, Nat.toDigits_of_lt_base last, List.mem_append, List.mem_singleton]
        exact fun present => present.elim (ih _ shorter) (Nat.digitChar_ne '\n' (by decide)).symm

theorem isOneLine_toString (number : Nat) : IsOneLine (toString number) := by
  rw [IsOneLine, Nat.toString_eq_repr, Nat.toList_repr]
  exact newline_notMem_toDigits (by decide) number

/-! ## Case -/

theorem ofNat_ne_newline {code : Nat} (other : code ≠ 10) : Char.ofNat code ≠ '\n' := by
  intro same
  by_cases valid : code.isValidChar
  · rw [Char.ofNat, dif_pos valid] at same
    have number : code = 10 := congrArg Char.toNat same
    exact other number
  · rw [Char.ofNat, dif_neg valid] at same
    exact absurd same (by decide)

/-- No character beyond ASCII has a form in a table that holds a line feed. -/
private theorem newline_notMem_mapCase {sequences : List (Nat × List Nat)}
    {runs : List Property.CaseRun} (sequencesClean : ∀ entry ∈ sequences, 10 ∉ entry.2)
    (runsClean : ∀ run ∈ runs, 10 < (run.first : Int) + run.shift) {char : Char}
    (other : char ≠ '\n') : '\n' ∉ mapCase sequences runs char := by
  unfold mapCase
  split
  · next codes found =>
      obtain ⟨before, after, rfl, -⟩ := List.lookup_eq_some_iff.mp found
      have clean := sequencesClean (char.toNat, codes) (by simp)
      intro present
      obtain ⟨code, member, same⟩ := List.mem_map.mp present
      exact ofNat_ne_newline (fun ten => clean (ten ▸ member)) same
  · split
    · next run found =>
        have clean := runsClean run (List.mem_of_find?_eq_some found)
        have covers := List.find?_some found
        simp only [Property.CaseRun.covers, Bool.and_eq_true, decide_eq_true_eq] at covers
        rw [List.mem_singleton]
        exact (ofNat_ne_newline (by omega)).symm
    · rw [List.mem_singleton]
      exact fun same => other same.symm

theorem newline_notMem_upper {char : Char} (other : char ≠ '\n') : '\n' ∉ upper char := by
  unfold upper
  split
  · rw [List.mem_singleton, eq_comm, toUpper_eq_sign_iff rfl]
    exact other
  · exact newline_notMem_mapCase (by decide +kernel) (by decide +kernel) other

theorem newline_notMem_lower {char : Char} (other : char ≠ '\n') : '\n' ∉ lower char := by
  unfold lower
  split
  · rw [List.mem_singleton, eq_comm, toLower_eq_sign_iff rfl]
    exact other
  · exact newline_notMem_mapCase (by decide +kernel) (by decide +kernel) other

/-! ## Decoding -/

/-- Whatever completes the sequence, its code is beyond ASCII. -/
structure OpenSequence.BeyondAscii (sequence : OpenSequence) : Prop where
  low : 0x80 ≤ sequence.low.toNat
  missing : 0 < sequence.missing
  least : 0x80 ≤ (sequence.code * 64 + (sequence.low.toNat - 0x80)) * 64 ^ (sequence.missing - 1)

namespace OpenSequence.BeyondAscii

variable {sequence : OpenSequence}

theorem push (beyond : sequence.BeyondAscii) {byte : UInt8}
    (accepted : sequence.accepts byte = true) :
    ((sequence.push byte).missing = 0 ∧ 0x80 ≤ (sequence.push byte).code) ∨
      (sequence.push byte).missing ≠ 0 ∧ (sequence.push byte).BeyondAscii := by
  have above := ((accepts_iff ..).mp accepted).1
  have larger : sequence.code * 64 + (sequence.low.toNat - 0x80) ≤ (sequence.push byte).code := by
    rw [code_push]
    omega
  have least := Nat.le_trans beyond.least (Nat.mul_le_mul_right _ larger)
  by_cases complete : (sequence.push byte).missing = 0
  · refine .inl ⟨complete, ?_⟩
    rw [missing_push] at complete
    rwa [complete, Nat.pow_zero, Nat.mul_one] at least
  · refine .inr ⟨complete, Nat.le_refl _, Nat.pos_of_ne_zero complete, ?_⟩
    obtain ⟨count, more⟩ := Nat.exists_eq_succ_of_ne_zero complete
    rw [← missing_push sequence byte, more, Nat.pow_succ', ← Nat.mul_assoc] at least
    have base : (sequence.push byte).low.toNat - 0x80 = 0 :=
      Nat.sub_eq_zero_of_le (Nat.le_refl 0x80)
    rw [base, more, Nat.add_zero, Nat.succ_sub_one]
    exact least

theorem of_lead {byte : UInt8} (opens : lead byte = .opens sequence) : sequence.BeyondAscii := by
  rw [lead_eq] at opens
  repeat' split at opens
  all_goals simp only [reduceCtorEq, Lead.opens.injEq] at opens
  all_goals subst opens
  all_goals constructor <;> simp only [UInt8.reduceToNat] <;> omega

end OpenSequence.BeyondAscii

/-- Only the byte of a line feed is read as one. -/
private theorem lead_ne_newline {byte : UInt8} (other : byte ≠ 0x0A) {char : Char}
    (leads : lead byte = .char char) : char ≠ '\n' := by
  obtain ⟨-, rfl⟩ := lead_eq_char leads
  exact ofNat_ne_newline fun ten => other (UInt8.toNat_inj.mp ten)

private theorem newline_notMem_scalarsFrom {bytes : Bytes} (clean : 0x0A ∉ bytes)
    {opened : Option OpenSequence}
    (beyond : ∀ sequence, opened = some sequence → sequence.BeyondAscii) :
    some '\n' ∉ scalarsFrom opened bytes := by
  induction bytes generalizing opened with
  | nil => cases opened <;> simp [scalarsFrom]
  | cons byte rest ih =>
      rw [List.mem_cons, not_or] at clean
      have none_beyond (sequence : OpenSequence) (impossible : none = some sequence) :
          sequence.BeyondAscii := by
        cases impossible
      have fresh : some '\n' ∉ scalarsFrom none (byte :: rest) := by
        rw [scalarsFrom]
        split
        · next char leads =>
            rw [List.mem_cons, not_or, Option.some.injEq]
            exact ⟨(lead_ne_newline (Ne.symm clean.1) leads).symm, ih clean.2 none_beyond⟩
        · next sequence leads =>
            refine ih clean.2 fun other same => ?_
            cases same
            exact .of_lead leads
        · simpa using ih clean.2 none_beyond
      cases opened with
      | none => exact fresh
      | some sequence =>
          rw [scalarsFrom]
          split
          · next accepted =>
              dsimp only
              rcases (beyond sequence rfl).push accepted with ⟨complete, large⟩ | ⟨more, larger⟩
              · have other : '\n' ≠ Char.ofNat (sequence.push byte).code :=
                  (ofNat_ne_newline (by omega)).symm
                rw [if_pos complete, List.mem_cons, not_or, Option.some.injEq]
                exact ⟨other, ih clean.2 none_beyond⟩
              · rw [if_neg more]
                refine ih clean.2 fun other same => ?_
                rwa [← Option.some.inj same]
          · rw [scalarsFrom] at fresh
            simpa using fresh

theorem isOneLine_decodeLossy {bytes : Bytes} (clean : 0x0A ∉ bytes) :
    IsOneLine (decodeLossy bytes) := by
  rw [decodeLossy, isOneLine_ofList]
  intro present
  obtain ⟨scalar, member, same⟩ := List.mem_map.mp present
  cases scalar with
  | none => cases same
  | some char =>
      cases same
      exact newline_notMem_scalarsFrom clean (by simp) member

/-! ## Joined lines -/

theorem join_cons {lines : List String} (more : lines ≠ []) (line : String) :
    join (line :: lines) = line ++ "\n" ++ join lines := by
  cases lines with
  | nil => exact absurd rfl more
  | cons next rest => rfl

theorem join_append {front back : List String} (some : front ≠ []) (more : back ≠ []) :
    join (front ++ back) = join front ++ "\n" ++ join back := by
  induction front with
  | nil => exact absurd rfl some
  | cons line rest ih =>
      by_cases last : rest = []
      · subst last
        exact join_cons more line
      · rw [List.cons_append, join_cons (by simp [last]), ih last, join_cons last]
        simp only [String.append_assoc]

/-- Lines that are joined come apart again at the line feeds, which only the last of them may
hold. -/
theorem splitOn_join {lines : List String} (oneLine : ∀ line ∈ lines, IsOneLine line)
    (last : String) : (join (lines ++ [last])).toList.splitOn '\n' =
      lines.map String.toList ++ last.toList.splitOn '\n' := by
  induction lines with
  | nil => rfl
  | cons line rest ih =>
      have first := oneLine line List.mem_cons_self
      have later := ih fun other member => oneLine other (List.mem_cons_of_mem line member)
      rw [List.cons_append, join_cons (by simp), String.toList_append, String.toList_append,
        List.append_assoc]
      change (line.toList ++ '\n' :: (join (rest ++ [last])).toList).splitOn '\n' = _
      rw [List.splitOn_append_cons_self_of_not_mem first, later]
      rfl

end HttpConsole.Text
