import HttpConsole.Http.Status
import HttpConsole.Proofs.Text.OneLine

/-! The head of a response as a reader sees it. Each of its lines is a line of its own, and the first
one begins with the digits of the code. -/

set_option autoImplicit false

namespace HttpConsole.Http

open HttpConsole.Text (Bytes IsOneLine)

/-! ## Status line -/

theorem isOneLine_reason {code : Nat} {reason : String} (registered : reason? code = some reason) :
    IsOneLine reason := by
  unfold reason? at registered
  split at registered <;> cases registered
  all_goals exact Text.isOneLine_ofList.mpr (by decide)

/-- A status line is the code, and maybe a blank and a reason. -/
theorem Status.toList_line (status : Status) : ∃ rest,
    status.line.toList = Nat.toDigits 10 status.code ++ rest ∧
    (rest = [] ∨ ∃ reason, rest = ' ' :: reason) := by
  have digits : (toString status.code).toList = Nat.toDigits 10 status.code := Nat.toList_repr
  unfold line
  split
  · next reason _ =>
      refine ⟨' ' :: reason.toList, ?_, .inr ⟨_, rfl⟩⟩
      rw [String.toList_append, String.toList_append, digits, List.append_assoc]
      rfl
  · exact ⟨[], by rw [digits, List.append_nil], .inl rfl⟩

theorem Status.isOneLine_line (status : Status) : IsOneLine status.line := by
  have code := Text.isOneLine_toString status.code
  unfold line
  split
  · next registered => exact (code.append (by decide)).append (isOneLine_reason registered)
  · exact code

theorem Status.line_ne_empty (status : Status) : status.line ≠ "" := by
  intro empty
  obtain ⟨rest, line, -⟩ := status.toList_line
  rw [empty, String.toList_empty] at line
  exact Nat.toDigits_ne_nil (List.append_eq_nil_iff.mp line.symm).1

/-! ## Header lines -/

private theorem newline_notMem_canonicalChars (capital : Bool) {name : List Char}
    (clean : '\n' ∉ name) : '\n' ∉ canonicalChars capital name := by
  induction name generalizing capital with
  | nil => exact clean
  | cons char rest ih =>
      rw [List.mem_cons, not_or] at clean
      rw [canonicalChars, List.mem_append]
      rintro (now | later)
      · split at now
        · exact Text.newline_notMem_upper (Ne.symm clean.1) now
        · exact Text.newline_notMem_lower (Ne.symm clean.1) now
      · exact ih _ clean.2 later

theorem isOneLine_headerLine {name : String} {value : Bytes} (named : IsOneLine name)
    (clean : 0x0A ∉ value) : IsOneLine (headerLine name value) := by
  have canonical : IsOneLine (canonicalName name) :=
    Text.isOneLine_ofList.mpr (newline_notMem_canonicalChars true named)
  exact (canonical.append (by decide)).append (Text.isOneLine_decodeLossy clean)

theorem headerLine_ne_empty (name : String) (value : Bytes) : headerLine name value ≠ "" := by
  intro empty
  have none := congrArg (fun line => line.toList.length) empty
  simp [headerLine] at none

namespace HeaderMap

/-- Headers without a line feed in any name or value. -/
def IsOneLine (headers : HeaderMap) : Prop :=
  ∀ entry ∈ headers.entries, Text.IsOneLine entry.1 ∧ 0x0A ∉ entry.2

theorem mem_lines {headers : HeaderMap} (clean : headers.IsOneLine) {line : String}
    (member : line ∈ headers.lines) : line ≠ "" ∧ Text.IsOneLine line := by
  obtain ⟨⟨name, value⟩, present, rfl⟩ := List.mem_map.mp member
  obtain ⟨named, valued⟩ := clean _ present
  exact ⟨headerLine_ne_empty name value, isOneLine_headerLine named valued⟩

private theorem mem_appendValue {name : String} {value : Bytes}
    {groups : List (String × List Bytes)} {group : String × List Bytes}
    (member : group ∈ appendValue name value groups) : ∀ content ∈ group.2,
    (group.1 = name ∧ content = value) ∨
      ∃ before ∈ groups, before.1 = group.1 ∧ content ∈ before.2 := by
  intro content present
  induction groups with
  | nil =>
      rw [List.mem_singleton.mp member] at present ⊢
      exact .inl ⟨rfl, List.mem_singleton.mp present⟩
  | cons first rest ih =>
      unfold appendValue at member
      split at member
      · next same =>
          rcases List.mem_cons.mp member with rfl | old
          · rcases List.mem_append.mp present with old | new
            · exact .inr ⟨first, List.mem_cons_self, rfl, old⟩
            · exact .inl ⟨same, List.mem_singleton.mp new⟩
          · exact .inr ⟨group, List.mem_cons_of_mem first old, rfl, present⟩
      · rcases List.mem_cons.mp member with rfl | later
        · exact .inr ⟨first, List.mem_cons_self, rfl, present⟩
        · rcases ih later with new | ⟨before, old, same, kept⟩
          · exact .inl new
          · exact .inr ⟨before, List.mem_cons_of_mem first old, same, kept⟩

theorem mem_entries {headers : HeaderMap} {name : String} {value : Bytes} :
    (name, value) ∈ headers.entries ↔
      ∃ group ∈ headers.groups, group.1 = name ∧ value ∈ group.2 := by
  rw [entries, List.mem_flatMap]
  refine exists_congr fun group => and_congr_right fun _ => ?_
  simp [and_comm, eq_comm]

/-- Headers stay without line feeds if a name and a value without any are added. -/
theorem IsOneLine.append {headers : HeaderMap} (clean : headers.IsOneLine) {name : String}
    {value : Bytes} (named : Text.IsOneLine name) (valued : 0x0A ∉ value) :
    (headers.append name value).IsOneLine := by
  rintro ⟨other, content⟩ member
  obtain ⟨group, present, rfl, within⟩ := mem_entries.mp member
  rcases mem_appendValue present content within with ⟨same, rfl⟩ | ⟨before, old, same, kept⟩
  · refine ⟨?_, valued⟩
    rw [same, Text.asciiLower, Text.IsOneLine, String.toList_map]
    intro newline
    obtain ⟨char, written, small⟩ := List.mem_map.mp newline
    obtain rfl := (Text.toLower_eq_sign_iff rfl).mp small
    exact named written
  · exact clean _ (mem_entries.mpr ⟨before, old, same, kept⟩)

end HeaderMap

theorem isOneLine_of_isToken {text : String} (token : isToken text = true) : IsOneLine text := by
  intro present
  have fits := List.all_eq_true.mp ((Bool.and_eq_true ..).mp token).2 '\n' present
  exact absurd fits (by decide)

theorem newline_notMem_of_isHeaderValue {value : Bytes} (valid : isHeaderValue value = true) :
    0x0A ∉ value := by
  intro present
  exact absurd (List.all_eq_true.mp valid 0x0A present) (by decide)

theorem mem_responseLines {status : Status} {headers : HeaderMap} (clean : headers.IsOneLine)
    {line : String} (member : line ∈ responseLines status headers) :
    line ≠ "" ∧ IsOneLine line := by
  rcases List.mem_cons.mp member with rfl | sorted
  · exact ⟨status.line_ne_empty, status.isOneLine_line⟩
  · exact headers.mem_lines clean ((List.mergeSort_perm ..).mem_iff.mp sorted)

end HttpConsole.Http
