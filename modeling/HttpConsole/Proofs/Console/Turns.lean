import HttpConsole.Proofs.Console.Handling

/-! What the console becomes when it takes inputs one at a time, whatever the clipboard does in the
meantime. -/

set_option autoImplicit false

namespace HttpConsole.Console

/-- An input that the console takes, and the clipboard that it finds at that time. -/
structure Turn where
  input : Input
  clipboard : Clipboard := .working

namespace State

def take (state : State) (turn : Turn) : State :=
  match turn.input with
  | .event event => (state.handle turn.clipboard event).1
  | .answer answer => state.receive answer

def takeAll (state : State) (turns : List Turn) : State :=
  turns.foldl take state

@[simp] theorem takeAll_nil (state : State) : state.takeAll [] = state := rfl

theorem takeAll_concat (state : State) (earlier : List Turn) (turn : Turn) :
    state.takeAll (earlier ++ [turn]) = (state.takeAll earlier).take turn := by
  simp only [takeAll, List.foldl_append, List.foldl_cons, List.foldl_nil]

/-- The lines that a turn puts into view: those of the report that is waited for. -/
def displayed? (state : State) (turn : Turn) : Option (List String) :=
  match turn.input with
  | .answer (.completed id report _) =>
      if state.pendingId = some id then some report.toLines else none
  | _ => none

private theorem view_copy (state : State) (clipboard : Clipboard) (text : String) :
    (state.copy clipboard text).1.view = state.view := by
  cases clipboard <;> rfl

/-- Of all events only the two that move the highlight touch the view. -/
theorem view_handle (state : State) (clipboard : Clipboard) (event : Event) :
    (state.handle clipboard event).1.view =
      match event with
      | .selectPrevious => state.view.selectPrevious
      | .selectNext => state.view.selectNext
      | _ => state.view := by
  cases event with
  | copyResult =>
      simp only [handle, withCopied, copyResult]
      split
      · rfl
      · exact view_copy ..
  | copyHeaders =>
      simp only [handle, withCopied, copyHeaders]
      split
      · rfl
      · exact view_copy ..
  | copySelected =>
      simp only [handle, withCopied, copySelected]
      split
      · rfl
      · exact view_copy ..
  | _ => rfl

/-- A turn shows a new result, moves in the view or leaves it, or blanks it. -/
theorem view_take_cases (state : State) (turn : Turn) :
    (∃ lines, state.displayed? turn = some lines ∧
      (state.take turn).view = state.view.display lines) ∨
    (state.displayed? turn = none ∧
      ((state.take turn).view = state.view ∨
        (state.take turn).view = state.view.selectPrevious ∨
        (state.take turn).view = state.view.selectNext ∨
        (state.take turn).view = .blank)) := by
  obtain ⟨input, clipboard⟩ := turn
  cases input with
  | event event =>
      refine .inr ⟨rfl, ?_⟩
      have view := state.view_handle clipboard event
      cases event with
      | selectPrevious => exact .inr (.inl view)
      | selectNext => exact .inr (.inr (.inl view))
      | _ => exact .inl view
  | answer answer =>
      cases answer with
      | completed id report elapsed =>
          by_cases awaited : state.pendingId = some id
          · refine .inl ⟨report.toLines, if_pos awaited, ?_⟩
            exact congrArg State.view (if_pos awaited)
          · refine .inr ⟨if_neg awaited, .inl ?_⟩
            exact congrArg State.view (if_neg awaited)
      | failed id message elapsed =>
          refine .inr ⟨rfl, ?_⟩
          by_cases awaited : state.pendingId = some id
          · exact .inr (.inr (.inr (congrArg State.view (if_pos awaited))))
          · exact .inl (congrArg State.view (if_neg awaited))

end State

end HttpConsole.Console
