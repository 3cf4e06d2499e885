import HttpConsole.Console.Circuit

/-! What an event can do to the console, once for all events. -/

set_option autoImplicit false

namespace HttpConsole.Console

def Event.isCopy : Event → Bool
  | .copyResult | .copyHeaders | .copySelected => true
  | _ => false

def Happening.isCopy : Happening → Bool
  | .event asked _ => asked.isCopy
  | _ => false

def Happening.isSend : Happening → Bool
  | .event asked _ => asked == .send
  | _ => false

theorem Happening.eq_send_of_isSend {happening : Happening} (sending : happening.isSend = true) :
    ∃ clipboard, happening = .event .send clipboard := by
  cases happening with
  | event asked clipboard =>
      rw [isSend, beq_iff_eq] at sending
      subst sending
      exact ⟨clipboard, rfl⟩
  | take => cases sending
  | start number => cases sending
  | reply number reply => cases sending
  | receive => cases sending

private theorem copy_state (state : State) (clipboard : Clipboard) (text : String) :
    ∃ error, (state.copy clipboard text).1 = { state with error := error } := by
  cases clipboard with
  | working => exact ⟨none, rfl⟩
  | failing fault => exact ⟨some fault.message, rfl⟩

/-- Unless it sends a request, an event sends nothing, and it changes at most the draft, what of
the result is in view, and, if it copies, the error. -/
theorem State.handle_of_not_send (state : State) (clipboard : Clipboard) {event : Event}
    (notSend : event ≠ .send) : ∃ draft view error effects,
    state.handle clipboard event =
      ({ state with draft := draft, view := view, error := error }, effects) ∧
    effects.filterMap Effect.command? = [] ∧ view.lines = state.view.lines ∧
    (event.isCopy = false → error = state.error) := by
  have copied {outcome : State × Option String}
      (only : ∃ error, outcome.1 = { state with error := error }) :
      ∃ draft view error effects, withCopied outcome =
        ({ state with draft := draft, view := view, error := error }, effects) ∧
      effects.filterMap Effect.command? = [] ∧ view.lines = state.view.lines ∧
      (true = false → error = state.error) := by
    obtain ⟨next, text⟩ := outcome
    obtain ⟨error, same⟩ := only
    refine ⟨state.draft, state.view, error, Effect.ofCopied text, congrArg (·, _) same, ?_, rfl,
      fun impossible => nomatch impossible⟩
    cases text <;> rfl
  cases event with
  | send => exact absurd rfl notSend
  | copyResult =>
      refine copied ?_
      unfold State.copyResult
      split
      · exact ⟨_, rfl⟩
      · exact copy_state ..
  | copyHeaders =>
      refine copied ?_
      unfold State.copyHeaders
      split
      · exact ⟨_, rfl⟩
      · exact copy_state ..
  | copySelected =>
      refine copied ?_
      unfold State.copySelected
      split
      · exact ⟨_, rfl⟩
      · exact copy_state ..
  | enterChar char => exact ⟨_, _, _, _, rfl, rfl, rfl, fun _ => rfl⟩
  | newline => exact ⟨_, _, _, _, rfl, rfl, rfl, fun _ => rfl⟩
  | deleteBackward => exact ⟨_, _, _, _, rfl, rfl, rfl, fun _ => rfl⟩
  | deleteForward => exact ⟨_, _, _, _, rfl, rfl, rfl, fun _ => rfl⟩
  | left => exact ⟨_, _, _, _, rfl, rfl, rfl, fun _ => rfl⟩
  | right => exact ⟨_, _, _, _, rfl, rfl, rfl, fun _ => rfl⟩
  | up => exact ⟨_, _, _, _, rfl, rfl, rfl, fun _ => rfl⟩
  | down => exact ⟨_, _, _, _, rfl, rfl, rfl, fun _ => rfl⟩
  | home => exact ⟨_, _, _, _, rfl, rfl, rfl, fun _ => rfl⟩
  | lineEnd => exact ⟨_, _, _, _, rfl, rfl, rfl, fun _ => rfl⟩
  | selectPrevious => exact ⟨_, _, _, _, rfl, rfl, rfl, fun _ => rfl⟩
  | selectNext => exact ⟨_, _, _, _, rfl, rfl, rfl, fun _ => rfl⟩
  | quit => exact ⟨_, _, _, _, rfl, rfl, rfl, fun _ => rfl⟩

end HttpConsole.Console
