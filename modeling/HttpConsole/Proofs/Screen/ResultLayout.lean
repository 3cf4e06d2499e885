import HttpConsole.Proofs.Console.Showing
import HttpConsole.Proofs.Exchange.Layout

/-! A result on the screen and in the clipboard. The lines of a report are found by their places alone,
each reader in its own way, and all readers find the same lines. -/

set_option autoImplicit false

namespace HttpConsole.Screen

open HttpConsole.Exchange (Report)

/-! ## Status codes -/

private theorem blanks_apart_from_digits :
    ∀ range ∈ Text.Property.blanks, range.2 < 48 ∨ 57 < range.1 := by
  decide

private theorem isWhiteSpace_of_isDigit {char : Char} (digit : char.isDigit = true) :
    Text.isWhiteSpace char = false := by
  rw [Char.isDigit_iff_toNat] at digit
  rw [← Bool.not_eq_true, Text.isWhiteSpace, Text.CodeRanges.has_iff]
  rintro ⟨range, member, low, high⟩
  have apart := blanks_apart_from_digits range member
  have bounds : '0'.toNat = 48 ∧ '9'.toNat = 57 := ⟨rfl, rfl⟩
  omega

private theorem isDigit_of_mem {code : Nat} {char : Char} (member : char ∈ Nat.toDigits 10 code) :
    char.isDigit = true :=
  Nat.isDigit_of_mem_toDigits (by decide) (by decide) member

theorem firstWord_line (status : Http.Status) :
    Text.firstWord status.line.toList = Nat.toDigits 10 status.code := by
  obtain ⟨rest, line, ends⟩ := status.toList_line
  have black (char : Char) (member : char ∈ Nat.toDigits 10 status.code) :
      Text.isWhiteSpace char = false :=
    isWhiteSpace_of_isDigit (isDigit_of_mem member)
  have begins : (Nat.toDigits 10 status.code ++ rest).dropWhile Text.isWhiteSpace =
      Nat.toDigits 10 status.code ++ rest := by
    obtain ⟨first, others, digits⟩ := List.exists_cons_of_ne_nil
      (Nat.toDigits_ne_nil : Nat.toDigits 10 status.code ≠ [])
    rw [digits] at black ⊢
    exact List.dropWhile_cons_of_neg (by simp [black first List.mem_cons_self])
  have stops : rest.takeWhile (!Text.isWhiteSpace ·) = [] := by
    rcases ends with rfl | ⟨reason, rfl⟩
    · rfl
    · exact List.takeWhile_cons_of_neg (by decide)
  rw [Text.firstWord, line, begins, List.takeWhile_append_of_pos (by simpa using black), stops,
    List.append_nil]

theorem codeOfWord?_toDigits {code : Nat} (small : code ≤ maxCode) :
    codeOfWord? (Nat.toDigits 10 code) = some code := by
  obtain ⟨first, others, digits⟩ := List.exists_cons_of_ne_nil
    (Nat.toDigits_ne_nil : Nat.toDigits 10 code ≠ [])
  have unsigned : first ≠ '+' := by
    rintro rfl
    have digit := isDigit_of_mem (digits ▸ List.mem_cons_self : '+' ∈ Nat.toDigits 10 code)
    exact absurd digit (by decide)
  have clean : (Nat.toDigits 10 code).any (fun char => !char.isDigit) = false := by
    rw [List.any_eq_false]
    exact fun char member => by simp [isDigit_of_mem member]
  have value : (Nat.toDigits 10 code).foldl
      (fun value char => value * 10 + (char.toNat - '0'.toNat)) 0 = code := by
    have read : Nat.ofDigitChars 10 (Nat.toDigits 10 code) 0 = code :=
      Nat.ofDigitChars_toDigits (by decide) (by decide)
    simpa only [Nat.ofDigitChars_eq_foldl, Nat.mul_comm 10] using read
  rw [digits] at clean value ⊢
  unfold codeOfWord?
  split
  · next rest signed =>
      cases signed
      exact absurd rfl unsigned
  · dsimp only
    rw [clean, value, if_neg (by simp), if_pos small]

/-- A status line is coloured by its code. -/
theorem statusStyle_line (status : Http.Status) :
    statusStyle status.line = { foreground := some (statusColor status.code), bold := true } := by
  have small : status.code ≤ maxCode := Nat.le_trans status.three_digits.2 (by decide)
  rw [statusStyle, firstWord_line, codeOfWord?_toDigits small]

/-! ## The status line on the screen -/

section

variable {report : Report}

theorem dropLast_toLines (report : Report) : report.toLines.dropLast =
    report.requestLines ++ "" :: (report.responseLines ++ [""]) := by
  rw [Report.toLines, List.dropLast_concat]
  simp

theorem getLast?_toLines (report : Report) : report.toLines.getLast? = some report.body :=
  List.getLast?_concat

/-- A response line stands as far behind the blank line as it stands among the response lines. -/
theorem getElem?_dropLast_toLines (report : Report) {place : Nat}
    (inside : place < report.responseLines.length) :
    report.toLines.dropLast[report.requestLines.length + 1 + place]? =
      report.responseLines[place]? := by
  rw [dropLast_toLines, List.getElem?_append_right (by omega)]
  have behind : report.requestLines.length + 1 + place - report.requestLines.length = place + 1 := by
    omega
  rw [behind, List.getElem?_cons_succ, List.getElem?_append_left inside]

theorem getElem?_toLines (report : Report) {place : Nat}
    (inside : place < report.responseLines.length) :
    report.toLines[report.requestLines.length + 1 + place]? = report.responseLines[place]? := by
  have found := getElem?_dropLast_toLines report inside
  rw [List.getElem?_eq_getElem inside] at found ⊢
  rw [List.getElem?_dropLast] at found
  split at found
  · exact found
  · cases found

theorem statusLine_toLines (laidOut : report.IsLaidOut) :
    report.toLines[report.requestLines.length + 1]? = report.responseLines.head? := by
  rw [List.head?_eq_getElem?]
  exact getElem?_toLines report laidOut.length_responseLines_pos

theorem lastLine_toLines (laidOut : report.IsLaidOut) :
    report.toLines[report.requestLines.length + report.responseLines.length]? =
      report.responseLines.getLast? := by
  have several := laidOut.length_responseLines_pos
  have bottom : report.requestLines.length + report.responseLines.length =
      report.requestLines.length + 1 + (report.responseLines.length - 1) := by
    omega
  rw [bottom, List.getLast?_eq_getElem?]
  exact getElem?_toLines report (by omega)

theorem statusIndex?_toLines (laidOut : report.IsLaidOut) :
    statusIndex? report.toLines.dropLast = some (report.requestLines.length + 1) := by
  have filled : report.requestLines.findIdx? (· == "") = none := by
    rw [List.findIdx?_eq_none_iff]
    exact fun line member => by simp [(laidOut.request line member).1]
  rw [statusIndex?, dropLast_toLines, List.findIdx?_append, filled]
  simp [List.findIdx?_cons]

end

end HttpConsole.Screen

namespace HttpConsole.Console

open HttpConsole.Exchange (Report)
open HttpConsole.Screen (resultLines statusIndex? statusColor selectedStyle)

namespace Viewport

variable {view : Viewport} {report : Report}

theorem resultLines_getElem? (shown : view.lines = report.toLines) {place : Nat} {line : String}
    (found : report.toLines.dropLast[place]? = some line) :
    (resultLines view)[place]? = some [{
      text := line
      style := Screen.headerLineStyle view report.toLines.dropLast place line }] := by
  have inside := (List.getElem?_eq_some_iff.mp found).1
  unfold resultLines
  rw [shown, Screen.getLast?_toLines]
  dsimp only
  rw [List.getElem?_append_left (by simpa using inside), List.getElem?_mapIdx, found]
  rfl

/-- The status line is drawn in the colour of its code, or as the highlighted one. -/
theorem resultLines_statusLine (shown : view.lines = report.toLines) (laidOut : report.IsLaidOut)
    {status : Http.Status} (first : report.responseLines.head? = some status.line) :
    (resultLines view)[report.requestLines.length + 1]? = some [{
      text := status.line
      style := if report.requestLines.length + 1 = view.selected then selectedStyle
        else { foreground := some (statusColor status.code), bold := true } }] := by
  have found : report.toLines.dropLast[report.requestLines.length + 1]? = some status.line := by
    rw [← first, List.head?_eq_getElem?]
    exact Screen.getElem?_dropLast_toLines report laidOut.length_responseLines_pos
  rw [resultLines_getElem? shown found, Screen.headerLineStyle,
    Screen.statusIndex?_toLines laidOut, if_pos rfl, Screen.statusStyle_line]

end Viewport

namespace State

variable {state : State} {report : Report}

/-- From the first line the highlight comes down to the third line from below and stays there. -/
theorem view_after_selectNext (top : state.view.selected = 0) (count : Nat) :
    let later := state.takeAll (List.replicate count { input := .event .selectNext })
    later.view.lines = state.view.lines ∧
      later.view.selected = min count (state.view.lines.length - 3) := by
  intro later
  induction count with
  | zero => exact ⟨rfl, by simpa [later] using top⟩
  | succ count ih =>
      obtain ⟨lines, selected⟩ := ih
      have next : later.view = (state.takeAll
          (List.replicate count { input := .event .selectNext })).view.selectNext := by
        simp only [later]
        rw [List.replicate_succ', takeAll_concat]
        rfl
      rw [next]
      refine ⟨lines, ?_⟩
      simp only [Viewport.selectNext, lines, selected]
      split <;> omega

theorem textFor?_copyHeaders (shown : state.view.lines = report.toLines) :
    state.textFor? .copyHeaders =
      some (Text.join (report.requestLines ++ [""] ++ report.responseLines)) := by
  have kept : report.toLines.take (report.toLines.length - 2) =
      report.requestLines ++ [""] ++ report.responseLines := by
    rw [report.length_toLines, Report.toLines, List.append_assoc _ [""] [report.body]]
    exact List.take_left' (by simp; omega)
  rw [textFor?, Viewport.headerText, shown, if_neg report.toLines_ne_nil, kept]

theorem textFor?_copyResult (shown : state.view.lines = report.toLines) :
    state.textFor? .copyResult = some (Text.join report.toLines) := by
  rw [textFor?, Viewport.allText, shown, if_neg report.toLines_ne_nil]

end State

/-- All lines as one text are the header lines, a blank line and the body. -/
theorem join_toLines (report : Report) : Text.join report.toLines =
    Text.join (report.requestLines ++ [""] ++ report.responseLines) ++ "\n\n" ++ report.body := by
  have body : Text.join ["", report.body] = "\n" ++ report.body := rfl
  rw [Report.toLines, List.append_assoc _ [""] [report.body]]
  change Text.join (_ ++ ["", report.body]) = _
  rw [Text.join_append (by simp) (by simp), body]
  simp only [String.append_assoc]
  rfl

/-- The parts of a report that is shown are where the readers of its lines look for them. The status
line is coloured by its code unless it is highlighted, the highlight gets from the first line to the
last response line and no further, and what is copied are the header lines alone or with the body
behind a blank line. The text that is copied tells what the report is. -/
theorem result_layout_is_unambiguous {report : Report} (producible : report.IsProducible)
    {state : State} (shown : state.view.lines = report.toLines) :
    let index := report.requestLines.length + 1
    let last := report.requestLines.length + report.responseLines.length
    let headerText := Text.join (report.requestLines ++ [""] ++ report.responseLines)
    (∃ status : Http.Status, report.responseLines.head? = some status.line ∧
      statusIndex? state.view.lines.dropLast = some index ∧
      state.view.lines[index]? = some status.line ∧
      (resultLines state.snapshot.view)[index]? = some [{
        text := status.line
        style := if index = state.view.selected then selectedStyle
          else { foreground := some (statusColor status.code), bold := true } }]) ∧
    (state.view.lines[last]? = report.responseLines.getLast? ∧
      (state.view.selected = 0 → ∀ count,
        (state.takeAll (List.replicate count { input := .event .selectNext })).view.selected =
          min count last)) ∧
    (state.handle .working .copyHeaders).2 = [.copy headerText] ∧
    (state.handle .working .copyResult).2 = [.copy (headerText ++ "\n\n" ++ report.body)] ∧
    ∀ (other : Report) (otherState : State), other.IsProducible →
      otherState.view.lines = other.toLines →
      (otherState.handle .working .copyResult).2 = (state.handle .working .copyResult).2 →
      other = report := by
  intro index last headerText
  have laidOut := producible.isLaidOut
  obtain ⟨status, first⟩ := laidOut.status
  refine ⟨⟨status, first, ?_, ?_, ?_⟩, ⟨?_, ?_⟩, ?_, ?_, ?_⟩
  · rw [shown]
    exact Screen.statusIndex?_toLines laidOut
  · rw [shown, ← first]
    exact Screen.statusLine_toLines laidOut
  · exact Viewport.resultLines_statusLine shown laidOut first
  · rw [shown]
    exact Screen.lastLine_toLines laidOut
  · intro top count
    rw [(State.view_after_selectNext top count).2, shown, report.length_toLines]
    rfl
  · exact State.effects_of_copies rfl (State.textFor?_copyHeaders shown)
  · rw [State.effects_of_copies rfl (State.textFor?_copyResult shown), join_toLines]
  · intro other otherState otherProducible otherShown copied
    rw [State.effects_of_copies rfl (State.textFor?_copyResult otherShown),
      State.effects_of_copies rfl (State.textFor?_copyResult shown)] at copied
    have same : Text.join other.toLines = Text.join report.toLines := by
      simpa using copied
    exact otherProducible.isLaidOut.eq_of_join laidOut same

/-- A body with a blank line of its own does not hide where the response begins and where it ends. -/
theorem result_layout_of_body_with_blank_line :
    let agent := Exchange.Agent.standard fun _ _ => none
    let response : Exchange.Response := {
      status := { code := 404, three_digits := by decide }
      headers := .ofEntries [("x-y", [0x31])]
      body := .whole (Text.encode "one\n\ntwo") }
    let report : Report := {
      requestLines := ["GET http://a/x"]
      responseLines := ["404 Not Found", "X-Y : 1"]
      body := "one\n\ntwo" }
    let state : State := { draft := .ofText "", view := { lines := report.toLines } }
    (Exchange.hit agent "GET \"http://a/x\"" [.response response]).outcome =
      .ended (.report report) ∧
    report.IsProducible ∧ statusIndex? state.view.lines.dropLast = some 2 ∧
    (state.takeAll (List.replicate 5 { input := .event .selectNext })).view.selected = 3 ∧
    (state.handle .working .copyResult).2 =
      [.copy "GET http://a/x\n\n404 Not Found\nX-Y : 1\n\none\n\ntwo"] := by
  intro agent response report state
  have ends : (Exchange.hit agent "GET \"http://a/x\"" [.response response]).outcome =
      .ended (.report report) := by
    decide +kernel
  have clean : ∀ other, .response other ∈ [Exchange.Reply.response response] →
      other.headers.IsOneLine := by
    intro other member
    cases List.mem_singleton.mp member
    have entries : response.headers.entries = [("x-y", [0x31])] := by decide +kernel
    intro entry present
    rw [entries, List.mem_singleton] at present
    subst present
    exact ⟨by decide, by decide⟩
  have producible := Report.isProducible_of_hit (Exchange.Agent.standard_lawful _)
    Url.asciiOnly_lawful clean ends
  have shown : state.view.lines = report.toLines := rfl
  obtain ⟨⟨status, -, index, -⟩, ⟨-, reach⟩, -, copied, -⟩ :=
    result_layout_is_unambiguous producible shown
  have text : Text.join (report.requestLines ++ [""] ++ report.responseLines) ++ "\n\n" ++
      report.body = "GET http://a/x\n\n404 Not Found\nX-Y : 1\n\none\n\ntwo" := by
    decide +kernel
  rw [text] at copied
  exact ⟨ends, producible, index, reach rfl 5, copied⟩

end HttpConsole.Console
