import HttpConsole.Proofs.Exchange.Journey
import HttpConsole.Proofs.Http.Head
import HttpConsole.Proofs.Url.OneLine

/-! How the lines of a report are laid out. Every report that a request can end with has lines that are
not empty and hold no line feed, so its parts can be found again in the text of all its lines. -/

set_option autoImplicit false

namespace HttpConsole.Exchange

open HttpConsole.Text (IsOneLine)

/-- A report that a request can end with: that of a request that is built, and of a response with
any status, any body, and headers that hold no line feed in their names and values. -/
def Report.IsProducible (report : Report) : Prop :=
  ∃ (tools : Tools) (request : Request) (outgoing : Outgoing) (status : Http.Status)
    (headers : Http.HeaderMap) (bytes : Text.Bytes),
    tools.toAscii.Lawful ∧ build tools request = .ok outgoing ∧ headers.IsOneLine ∧
    report = {
      requestLines := outgoing.lines
      responseLines := Http.responseLines status headers
      body := Http.bodyText Http.bodyCheck bytes }

theorem Report.isProducible_of_hit {agent : Agent} (lawful : agent.Lawful)
    (ascii : agent.toAscii.Lawful) {text : String} {script : List Reply} {report : Report}
    (clean : ∀ response, .response response ∈ script → response.headers.IsOneLine)
    (ends : (hit agent text script).outcome = .ended (.report report)) : report.IsProducible := by
  cases prepared : prepare agent.toTools text with
  | error halt =>
      rw [hit_of_unprepared prepared] at ends
      cases halt <;> cases ends
  | ok outgoing =>
      obtain ⟨request, built⟩ : ∃ request, build agent.toTools request = .ok outgoing := by
        unfold prepare at prepared
        split at prepared
        · exact ⟨_, prepared⟩
        · cases prepared
      rcases hit_result prepared lawful ends with ⟨error, broken⟩ | ⟨consumed, response, split, -, -,
        last⟩
      · cases broken
      · have inside : .response response ∈ script := by
          rw [split]
          exact List.mem_append_right _ List.mem_cons_self
        rcases response.ending_cases outgoing with ⟨error, -, fails⟩ | ⟨bytes, -, reports⟩
        · cases last.trans fails
        · cases last.trans reports
          exact ⟨agent.toTools, request, outgoing, response.status, response.headers, bytes, ascii,
            built, clean response inside, rfl⟩

/-- A report whose parts can be told apart in the text of all its lines. -/
structure Report.IsLaidOut (report : Report) : Prop where
  request : ∀ line ∈ report.requestLines, line ≠ "" ∧ IsOneLine line
  response : ∀ line ∈ report.responseLines, line ≠ "" ∧ IsOneLine line
  status : ∃ status : Http.Status, report.responseLines.head? = some status.line

theorem Report.IsLaidOut.length_responseLines_pos {report : Report} (laidOut : report.IsLaidOut) :
    0 < report.responseLines.length := by
  obtain ⟨status, first⟩ := laidOut.status
  obtain ⟨others, lines⟩ := List.head?_eq_some_iff.mp first
  rw [lines]
  exact Nat.zero_lt_succ _

/-! ## Requests -/

private theorem isOneLine_of_readHeaders {tools : Tools} {count : Nat} {taken : List String}
    {headers map : Http.HeaderMap} (clean : headers.IsOneLine) {entries : List (String × String)}
    (reads : readHeaders tools count taken headers entries = .ok map) : map.IsOneLine := by
  induction entries generalizing taken headers with
  | nil =>
      cases reads
      exact clean
  | cons entry rest ih =>
      obtain ⟨name, value⟩ := entry
      simp only [readHeaders, ite_eq_iff, reduceCtorEq, and_false, false_or, Bool.not_eq_true,
        Bool.not_eq_false'] at reads
      obtain ⟨named, valued, -, later⟩ := reads
      have token := ((Bool.and_eq_true ..).mp named).1
      exact ih (clean.append (Http.isOneLine_of_isToken token)
        (Http.newline_notMem_of_isHeaderValue valued)) later

theorem mem_lines_of_build {tools : Tools} (lawful : tools.toAscii.Lawful) {request : Request}
    {outgoing : Outgoing} (built : build tools request = .ok outgoing) :
    ∀ line ∈ outgoing.lines, line ≠ "" ∧ IsOneLine line := by
  obtain ⟨token, url, headers, reads, collects, rfl⟩ := build_eq_ok built
  intro line member
  rcases List.mem_cons.mp member with rfl | header
  · have target : IsOneLine url.render :=
      Url.isOneLine_of_parse lawful (readUrl_eq_ok_iff.mp reads)
    refine ⟨fun empty => ?_, ((Http.isOneLine_of_isToken token).append (by decide)).append target⟩
    have none := congrArg (fun line => line.toList.length) empty
    simp at none
  · have clean : Http.HeaderMap.empty.IsOneLine := fun _ impossible => nomatch impossible
    exact Http.HeaderMap.mem_lines
      (isOneLine_of_readHeaders clean (collectHeaders_eq_ok collects)) header

/-! ## Reports -/

theorem Report.IsProducible.isLaidOut {report : Report} (producible : report.IsProducible) :
    report.IsLaidOut := by
  obtain ⟨tools, request, outgoing, status, headers, bytes, lawful, built, clean, rfl⟩ := producible
  exact {
    request := mem_lines_of_build lawful built
    response := fun line member => Http.mem_responseLines clean member
    status := ⟨status, rfl⟩ }

namespace Report.IsLaidOut

variable {left right : Report}

/-- Lists that are equal have the same first item of a kind. -/
private theorem eq_of_append_cons {Item : Type} {item : Item}
    {front back otherFront otherBack : List Item} (absent : item ∉ front)
    (otherAbsent : item ∉ otherFront)
    (same : front ++ item :: back = otherFront ++ item :: otherBack) :
    front = otherFront ∧ back = otherBack := by
  rcases List.append_eq_append_iff.mp same with ⟨gap, rfl, split⟩ | ⟨gap, rfl, split⟩
  · cases gap with
    | nil => simpa using split
    | cons first rest =>
        cases split
        exact absurd (List.mem_append_right _ List.mem_cons_self) otherAbsent
  · cases gap with
    | nil => simpa [eq_comm] using split
    | cons first rest =>
        cases split
        exact absurd (List.mem_append_right _ List.mem_cons_self) absent

private theorem not_mem_of_ne_empty {lines : List String}
    (filled : ∀ line ∈ lines, line ≠ "" ∧ IsOneLine line) : [] ∉ lines.map String.toList := by
  intro present
  obtain ⟨line, member, empty⟩ := List.mem_map.mp present
  exact (filled line member).1 (String.toList_eq_nil_iff.mp empty)

private theorem splitOn_toLines (laidOut : left.IsLaidOut) :
    (Text.join left.toLines).toList.splitOn '\n' =
      left.requestLines.map String.toList ++ [] :: (left.responseLines.map String.toList ++
        [] :: left.body.toList.splitOn '\n') := by
  have oneLine : ∀ line ∈ left.requestLines ++ [""] ++ left.responseLines ++ [""],
      IsOneLine line := by
    intro line member
    simp only [List.mem_append, List.mem_singleton] at member
    rcases member with ((request | rfl) | response) | rfl
    · exact (laidOut.request line request).2
    · decide
    · exact (laidOut.response line response).2
    · decide
  rw [toLines, Text.splitOn_join oneLine]
  simp

/-- The text of all lines says what the report was. -/
theorem eq_of_join (laidOut : left.IsLaidOut) (other : right.IsLaidOut)
    (same : Text.join left.toLines = Text.join right.toLines) : left = right := by
  have pieces := congrArg (fun text => text.toList.splitOn '\n') same
  simp only [splitOn_toLines laidOut, splitOn_toLines other] at pieces
  -- The first two empty pieces are the blank lines, since no other line before the body is empty.
  obtain ⟨requests, rest⟩ := eq_of_append_cons (not_mem_of_ne_empty laidOut.request)
    (not_mem_of_ne_empty other.request) pieces
  obtain ⟨responses, bodies⟩ := eq_of_append_cons (not_mem_of_ne_empty laidOut.response)
    (not_mem_of_ne_empty other.response) rest
  have texts : Function.Injective String.toList := fun _ _ => String.toList_inj.mp
  have body := congrArg (List.intercalate ['\n']) bodies
  rw [List.intercalate_splitOn, List.intercalate_splitOn] at body
  cases left
  cases right
  rw [Report.mk.injEq]
  exact ⟨texts.list_map requests, texts.list_map responses, texts body⟩

end Report.IsLaidOut

end HttpConsole.Exchange
