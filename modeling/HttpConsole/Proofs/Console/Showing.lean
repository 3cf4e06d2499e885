import HttpConsole.Proofs.Console.Viewing
import HttpConsole.Proofs.Exchange.Ledger

/-! What is on the screen tells how the last request ended. A result is shown as long as the last
answer was a report, and an error next to it can only come from the clipboard. -/

set_option autoImplicit false

namespace HttpConsole.Console

open HttpConsole.Exchange (Answer Report)

/-- Why a result or an error on the screen may change: an answer that was waited for came, or the
clipboard refused a text. -/
inductive Incident where
  | applied (answer : Answer)
  | refused (fault : ClipboardFault)
deriving DecidableEq, Repr

def Event.complaint : Event → String
  | .copyHeaders => "no headers to copy"
  | _ => "no result to copy"

theorem ClipboardFault.message_ne_complaint (fault : ClipboardFault) (event : Event) :
    fault.message ≠ event.complaint := by
  intro same
  have begins (reason : String) :
      ("clipboard unavailable: " ++ reason).toList.head? = some 'c' := by
    simp
  have first : fault.message.toList.head? = some 'c' := begins fault.describe
  rw [same] at first
  unfold Event.complaint at first
  split at first <;> exact absurd first (by decide)

namespace Viewport

/-- Without a result there is nothing to highlight and nothing to scroll. -/
def RestsIfBlank (view : Viewport) : Prop :=
  view.lines = [] → view = .blank

theorem keptByMoves_restsIfBlank : KeptByMoves RestsIfBlank where
  blank := fun _ => rfl
  selectPrevious := fun view rests nothing => by
    rw [rests nothing]
    rfl
  selectNext := fun view rests nothing => by
    rw [rests nothing]
    rfl

end Viewport

namespace State

/-- The text that an event asks the clipboard to take. -/
def textFor? (state : State) : Event → Option String
  | .copyResult => if state.view.lines = [] then none else some state.view.allText
  | .copyHeaders => if state.view.lines = [] then none else some state.view.headerText
  | .copySelected => state.view.selectedLine?
  | _ => none

def incidentsAt (state : State) (turn : Turn) : List Incident :=
  match turn.input with
  | .answer answer => if state.pendingId = some answer.id then [.applied answer] else []
  | .event event =>
      match turn.clipboard with
      | .working => []
      | .failing fault => (state.textFor? event).toList.map fun _ => .refused fault

/-- What has come and what was refused in some turns, oldest first. -/
def incidents (state : State) (turns : List Turn) : List Incident :=
  noted take incidentsAt state turns

theorem incidents_concat (state : State) (earlier : List Turn) (turn : Turn) :
    state.incidents (earlier ++ [turn]) =
      state.incidents earlier ++ (state.takeAll earlier).incidentsAt turn :=
  noted_concat ..

theorem handle_of_copies (state : State) (clipboard : Clipboard) {event : Event}
    (copies : event.isCopy = true) : state.handle clipboard event =
      withCopied ((state.textFor? event).elim (state.setError event.complaint, none)
        (state.copy clipboard)) := by
  cases event with
  | copyResult =>
      simp only [handle, copyResult, textFor?, Event.complaint]
      split <;> rfl
  | copyHeaders =>
      simp only [handle, copyHeaders, textFor?, Event.complaint]
      split <;> rfl
  | copySelected =>
      simp only [handle, copySelected, textFor?, Event.complaint]
      cases state.view.selectedLine? <;> rfl
  | _ => cases copies

theorem effects_of_copies {state : State} {event : Event} {text : String}
    (copies : event.isCopy = true) (asked : state.textFor? event = some text) :
    (state.handle .working event).2 = [.copy text] := by
  rw [state.handle_of_copies .working copies, asked]
  rfl

theorem textFor?_of_not_copies (state : State) {event : Event} (other : event.isCopy = false) :
    state.textFor? event = none := by
  cases event with
  | copyResult => cases other
  | copyHeaders => cases other
  | copySelected => cases other
  | _ => rfl

/-- An event that copies nothing leaves what is shown, and does not look at the clipboard. -/
theorem handle_of_not_copies (state : State) (clipboard : Clipboard) {event : Event}
    (other : event.isCopy = false) :
    (state.handle clipboard event).1.view.lines = state.view.lines ∧
    (state.handle clipboard event).1.elapsed = state.elapsed ∧
    (state.handle clipboard event).1.error = state.error ∧
    state.handle clipboard event = state.handle .working event := by
  cases event with
  | copyResult => cases other
  | copyHeaders => cases other
  | copySelected => cases other
  | _ => exact ⟨rfl, rfl, rfl, rfl⟩

theorem textFor?_of_blank (state : State) (nothing : state.view.lines = []) (event : Event) :
    state.textFor? event = none := by
  cases event with
  | copyResult => exact if_pos nothing
  | copyHeaders => exact if_pos nothing
  | copySelected =>
      change state.view.lines[state.view.selected]? = none
      rw [nothing]
      rfl
  | _ => rfl

/-- With a result in view there is a text to copy. -/
theorem exists_textFor? (state : State) {event : Event} (copies : event.isCopy = true)
    (inside : state.view.HighlightsLine) (something : state.view.lines ≠ []) :
    ∃ text, state.textFor? event = some text := by
  cases event with
  | copyResult => exact ⟨_, if_neg something⟩
  | copyHeaders => exact ⟨_, if_neg something⟩
  | copySelected => exact ⟨_, List.getElem?_eq_getElem (inside something)⟩
  | _ => cases copies

/-- Without a result the clipboard is not even asked. -/
theorem handle_of_blank (state : State) (nothing : state.view.lines = []) (clipboard : Clipboard)
    (event : Event) : state.handle clipboard event = state.handle .working event ∧
      ∀ text, .copy text ∉ (state.handle clipboard event).2 := by
  cases copies : event.isCopy with
  | false =>
      refine ⟨(state.handle_of_not_copies clipboard copies).2.2.2, fun text => ?_⟩
      cases event with
      | copyResult => cases copies
      | copyHeaders => cases copies
      | copySelected => cases copies
      | send => simp [handle]
      | _ => exact List.not_mem_nil
  | true =>
      rw [state.handle_of_copies clipboard copies, state.handle_of_copies .working copies,
        state.textFor?_of_blank nothing]
      exact ⟨rfl, fun _ => List.not_mem_nil⟩

theorem highlightsLine_takeAll (text : String) (turns : List Turn) :
    ((State.ofDraftText text).takeAll turns).view.HighlightsLine := by
  refine (Viewport.keptByMoves_highlightsLine.throughout_iff text turns).mpr ?_ turns
    List.prefix_rfl
  intro earlier turn lines within displayed
  exact Viewport.highlightsLine_display _ _

theorem restsIfBlank_takeAll (text : String) (turns : List Turn) :
    ((State.ofDraftText text).takeAll turns).view.RestsIfBlank := by
  refine (Viewport.keptByMoves_restsIfBlank.throughout_iff text turns).mpr ?_ turns
    List.prefix_rfl
  intro earlier turn lines within displayed nothing
  have long := State.three_le_length_of_displayed displayed
  change lines = [] at nothing
  rw [nothing] at long
  cases long

end State

/-- What a state shows is what the last answer left there, and what copying has added since. -/
inductive Shows : List Incident → State → Prop where
  | untouched {state : State} (blank : state.view.lines = []) (untimed : state.elapsed = none)
      (error : state.error = none ∨ ∃ event : Event, state.error = some event.complaint) :
      Shows [] state
  | completed {state : State} {earlier : List Incident} {id : UInt64} {report : Report}
      {elapsed : UInt64} {faults : List ClipboardFault} (lines : state.view.lines = report.toLines)
      (timed : state.elapsed = some elapsed)
      (error : state.error = none ∨ ∃ fault ∈ faults, state.error = some fault.message) :
      Shows (earlier ++ .applied (.completed id report elapsed) :: faults.map .refused) state
  | failed {state : State} {earlier : List Incident} {id : UInt64} {message : String}
      {elapsed : UInt64} (blank : state.view.lines = []) (timed : state.elapsed = some elapsed)
      (error : state.error = some message ∨
        ∃ event : Event, state.error = some event.complaint) :
      Shows (earlier ++ [.applied (.failed id message elapsed)]) state

namespace Shows

variable {incidents : List Incident} {state : State}

private theorem congr {other : State} (shows : Shows incidents state)
    (lines : other.view.lines = state.view.lines) (elapsed : other.elapsed = state.elapsed)
    (error : other.error = state.error) : Shows incidents other := by
  cases shows with
  | untouched blank untimed old =>
      exact .untouched (lines.trans blank) (elapsed.trans untimed) (by rwa [error])
  | completed shown timed old =>
      exact .completed (lines.trans shown) (elapsed.trans timed) (by rwa [error])
  | failed blank timed old =>
      exact .failed (lines.trans blank) (elapsed.trans timed) (by rwa [error])

private theorem receive (shows : Shows incidents state) (answer : Answer) (clipboard : Clipboard) :
    Shows (incidents ++ state.incidentsAt { input := .answer answer, clipboard := clipboard })
      (state.receive answer) := by
  simp only [State.incidentsAt, State.receive]
  split
  · cases answer with
    | completed id report elapsed =>
        have shown : Shows (incidents ++ .applied (.completed id report elapsed) ::
            ([] : List ClipboardFault).map .refused) (state.apply (.completed id report elapsed)) :=
          .completed rfl rfl (.inl rfl)
        exact shown
    | failed id message elapsed => exact .failed rfl rfl (.inl rfl)
  · rwa [List.append_nil]

/-- There is a complaint only if there was nothing to copy. -/
private theorem complain (shows : Shows incidents state) (nothing : state.view.lines = [])
    (event : Event) : Shows incidents (state.setError event.complaint) := by
  cases shows with
  | untouched blank untimed old => exact .untouched blank untimed (.inr ⟨event, rfl⟩)
  | @completed _ _ _ report _ _ lines =>
      exact absurd (lines.symm.trans nothing) report.toLines_ne_nil
  | failed blank timed old => exact .failed blank timed (.inr ⟨event, rfl⟩)

private theorem copy (shows : Shows incidents state) (something : state.view.lines ≠ [])
    (clipboard : Clipboard) (text : String) :
    Shows (incidents ++ match clipboard with
      | .working => []
      | .failing fault => [.refused fault]) (state.copy clipboard text).1 := by
  cases shows with
  | untouched blank => exact absurd blank something
  | failed blank => exact absurd blank something
  | @completed _ earlier id report elapsed faults lines timed old =>
      cases clipboard with
      | working =>
          rw [List.append_nil]
          exact .completed lines timed (.inl rfl)
      | failing fault =>
          have longer : (earlier ++ Incident.applied (.completed id report elapsed) ::
              faults.map .refused) ++ [.refused fault] =
              earlier ++ .applied (.completed id report elapsed) ::
                (faults ++ [fault]).map .refused := by
            simp
          simp only [longer]
          exact .completed lines timed
            (.inr ⟨fault, List.mem_append_right _ (List.mem_singleton.mpr rfl), rfl⟩)

private theorem handle (shows : Shows incidents state) (inside : state.view.HighlightsLine)
    (event : Event) (clipboard : Clipboard) :
    Shows (incidents ++ state.incidentsAt { input := .event event, clipboard := clipboard })
      (state.handle clipboard event).1 := by
  cases copies : event.isCopy with
  | false =>
      obtain ⟨lines, elapsed, error, -⟩ := state.handle_of_not_copies clipboard copies
      have calm : state.incidentsAt { input := .event event, clipboard := clipboard } = [] := by
        cases clipboard <;> simp [State.incidentsAt, state.textFor?_of_not_copies copies]
      rw [calm, List.append_nil]
      exact shows.congr lines elapsed error
  | true =>
      rw [state.handle_of_copies clipboard copies]
      by_cases nothing : state.view.lines = []
      · have calm : state.incidentsAt { input := .event event, clipboard := clipboard } = [] := by
          cases clipboard <;> simp [State.incidentsAt, state.textFor?_of_blank nothing]
        rw [calm, List.append_nil, state.textFor?_of_blank nothing]
        exact shows.complain nothing event
      · obtain ⟨text, asked⟩ := state.exists_textFor? copies inside nothing
        have copied := shows.copy nothing clipboard text
        simp only [State.incidentsAt, asked]
        cases clipboard <;> exact copied

theorem take (shows : Shows incidents state) (inside : state.view.HighlightsLine) (turn : Turn) :
    Shows (incidents ++ state.incidentsAt turn) (state.take turn) := by
  obtain ⟨input, clipboard⟩ := turn
  cases input with
  | event event => exact shows.handle inside event clipboard
  | answer answer => exact shows.receive answer clipboard

/-- After any turns the screen shows what their incidents say. -/
theorem takeAll (text : String) (turns : List Turn) :
    Shows ((State.ofDraftText text).incidents turns) ((State.ofDraftText text).takeAll turns) := by
  induction turns using List.reverseRecOn with
  | nil => exact .untouched rfl rfl (.inl rfl)
  | append_singleton earlier turn ih =>
      rw [State.incidents_concat, State.takeAll_concat]
      exact ih.take (State.highlightsLine_takeAll text earlier) turn

theorem isSome_elapsed_iff (shows : Shows incidents state) :
    state.elapsed.isSome = true ↔ ∃ answer, .applied answer ∈ incidents := by
  cases shows with
  | untouched blank untimed => simp [untimed]
  | completed lines timed => simp [timed]
  | failed blank timed => simp [timed]

theorem result_or_error (shows : Shows incidents state) (timed : state.elapsed.isSome = true) :
    state.view.lines ≠ [] ∨ state.error.isSome = true := by
  cases shows with
  | untouched blank untimed =>
      rw [untimed] at timed
      cases timed
  | @completed _ _ _ report _ _ lines =>
      exact .inl fun nothing => report.toLines_ne_nil (lines.symm.trans nothing)
  | failed blank timed error =>
      rcases error with error | ⟨event, error⟩ <;> exact .inr (by rw [error]; rfl)

/-- What is known of a state that shows a result. -/
theorem of_result (shows : Shows incidents state) (something : state.view.lines ≠ []) :
    ∃ (earlier : List Incident) (id : UInt64) (report : Report) (elapsed : UInt64)
      (faults : List ClipboardFault),
      incidents = earlier ++ .applied (.completed id report elapsed) :: faults.map .refused ∧
      state.view.lines = report.toLines ∧ state.elapsed = some elapsed ∧
      (state.error = none ∨ ∃ fault ∈ faults, state.error = some fault.message) := by
  cases shows with
  | untouched blank => exact absurd blank something
  | failed blank => exact absurd blank something
  | completed lines timed error => exact ⟨_, _, _, _, _, rfl, lines, timed, error⟩

end Shows

/-- In every state that is reached, the screen tells how the last answered request ended. Without a
result nothing is highlighted, scrolled or copied. Once an answer was taken there is a result or an
error. A result is the report that came last, and an error next to it is a refusal of the clipboard
since then. -/
theorem screen_matches_last_outcome (text : String) (turns : List Turn) :
    let start := State.ofDraftText text
    let state := start.takeAll turns
    (state.view.lines = [] → state.view.selected = 0 ∧ state.view.scroll = 0) ∧
    (state.elapsed.isSome = true ↔ ∃ answer, .applied answer ∈ start.incidents turns) ∧
    (state.elapsed.isSome = true → state.view.lines ≠ [] ∨ state.error.isSome = true) ∧
    (state.view.lines ≠ [] → 3 ≤ state.view.lines.length ∧
      (∃ (earlier : List Incident) (id : UInt64) (report : Report) (elapsed : UInt64)
        (faults : List ClipboardFault),
        start.incidents turns =
          earlier ++ .applied (.completed id report elapsed) :: faults.map .refused ∧
        state.view.lines = report.toLines ∧ state.elapsed = some elapsed ∧
        (state.error = none ∨ ∃ fault ∈ faults, state.error = some fault.message)) ∧
      state.error ≠ some "no result to copy" ∧ state.error ≠ some "no headers to copy") ∧
    ∀ (event : Event) (clipboard : Clipboard),
      (∀ copied, .copy copied ∈ (state.handle clipboard event).2 → state.view.lines ≠ []) ∧
      (state.view.lines = [] → state.handle clipboard event = state.handle .working event) := by
  intro start state
  have shows : Shows (start.incidents turns) state := .takeAll text turns
  refine ⟨fun nothing => ?_, shows.isSome_elapsed_iff, shows.result_or_error,
    fun something => ?_, fun event clipboard => ⟨fun copied present nothing => ?_, fun nothing => ?_⟩⟩
  · rw [State.restsIfBlank_takeAll text turns nothing]
    exact ⟨rfl, rfl⟩
  · obtain ⟨earlier, id, report, elapsed, faults, history, lines, timed, error⟩ :=
      shows.of_result something
    have long : 3 ≤ state.view.lines.length := by
      rw [lines, report.length_toLines]
      omega
    have calm (event : Event) : state.error ≠ some event.complaint := by
      intro complains
      rcases error with none | ⟨fault, -, refused⟩
      · rw [none] at complains
        cases complains
      · rw [refused] at complains
        exact fault.message_ne_complaint event (Option.some.inj complains)
    exact ⟨long, ⟨earlier, id, report, elapsed, faults, history, lines, timed, error⟩,
      calm .copyResult, calm .copyHeaders⟩
  · exact (state.handle_of_blank nothing clipboard event).2 copied present
  · exact (state.handle_of_blank nothing clipboard event).1

/-- The clipboard refuses a result, which stays on the screen next to the refusal. -/
theorem screen_after_refused_copy :
    let report : Report := {
      requestLines := ["GET https://x/"], responseLines := ["200 OK"], body := "hello" }
    let turns : List Turn := [
      { input := .event .copyHeaders },
      { input := .event .send },
      { input := .answer (.completed 1 report 7) },
      { input := .event .copyResult, clipboard := .failing .occupied }]
    let start := State.ofDraftText "GET www.example.com"
    let state := start.takeAll turns
    start.incidents turns = [.applied (.completed 1 report 7), .refused .occupied] ∧
    state.error = some ClipboardFault.occupied.message ∧ state.view.lines = report.toLines ∧
    state.error ≠ some "no result to copy" := by
  intro report turns start state
  have lines : state.view.lines = report.toLines := by decide +kernel
  have outcome := (screen_matches_last_outcome "GET www.example.com" turns).2.2.2.1
    (by rw [lines]; decide)
  exact ⟨by decide +kernel, by decide +kernel, lines, outcome.2.2.1⟩

end HttpConsole.Console
