import HttpConsole.Proofs.Console.SessionTrace

/-! What the user types and sends does not depend on the answers. Two sessions that got the same
events agree on the draft, on the commands and on what is saved, whatever answers came and whenever
they came. Answers and edits of the draft change different parts of the state, so their order does
not matter. -/

set_option autoImplicit false

namespace HttpConsole.Console

open HttpConsole.Exchange (Answer Command)
open HttpConsole.Storage (DraftFile)

/-- The edit of the draft that an event asks for. -/
def Event.edit? : Event → Option Edit
  | .enterChar char => some (.enter char)
  | .newline => some (.enter '\n')
  | .deleteBackward => some .deleteBackward
  | .deleteForward => some .deleteForward
  | .left => some .left
  | .right => some .right
  | .up => some .up
  | .down => some .down
  | .home => some .home
  | .lineEnd => some .lineEnd
  | .send | .selectPrevious | .selectNext | .copyResult | .copyHeaders | .copySelected | .quit =>
      none

def Turn.event? (turn : Turn) : Option Event :=
  match turn.input with
  | .event event => some event
  | .answer _ => none

def Turn.answer? (turn : Turn) : Option Answer :=
  match turn.input with
  | .event _ => none
  | .answer answer => some answer

/-- The events of some turns, on their own. -/
def onlyEvents (turns : List Turn) : List Turn :=
  (turns.filterMap Turn.event?).map fun event => { input := .event event }

namespace State

theorem handle_of_edit? (state : State) (clipboard : Clipboard) {event : Event} {edit : Edit}
    (asked : event.edit? = some edit) :
    state.handle clipboard event = (state.edit (·.perform edit), []) := by
  cases event <;> cases asked <;> rfl

private theorem draft_copy (state : State) (clipboard : Clipboard) (text : String) :
    (state.copy clipboard text).1.draft = state.draft := by
  cases clipboard <;> rfl

/-- An event does to the draft what it asks for, whatever else the state holds. -/
theorem draft_handle (state : State) (clipboard : Clipboard) (event : Event) :
    (state.handle clipboard event).1.draft = event.edit?.elim state.draft state.draft.perform := by
  cases event with
  | copyResult =>
      simp only [handle, withCopied, copyResult]
      split
      · rfl
      · exact draft_copy ..
  | copyHeaders =>
      simp only [handle, withCopied, copyHeaders]
      split
      · rfl
      · exact draft_copy ..
  | copySelected =>
      simp only [handle, withCopied, copySelected]
      split
      · rfl
      · exact draft_copy ..
  | _ => rfl

theorem draft_receive (state : State) (answer : Answer) :
    (state.receive answer).draft = state.draft := by
  rw [receive]
  split
  · cases answer <;> rfl
  · rfl

/-- An answer and a change of the draft do not touch the same parts of a state. -/
theorem receive_edit (state : State) (change : Draft → Draft) (answer : Answer) :
    (state.edit change).receive answer = (state.receive answer).edit change := by
  have same : (state.edit change).pendingId = state.pendingId := rfl
  by_cases awaited : state.pendingId = some answer.id
  · rw [receive, receive, same, if_pos awaited, if_pos awaited]
    cases answer <;> rfl
  · rw [receive, receive, same, if_neg awaited, if_neg awaited]

theorem foldl_receive_edit (state : State) (change : Draft → Draft) (answers : List Answer) :
    answers.foldl receive (state.edit change) = (answers.foldl receive state).edit change := by
  induction answers generalizing state with
  | nil => rfl
  | cons answer rest ih => rw [List.foldl_cons, List.foldl_cons, receive_edit, ih]

/-- If all events are edits, a state becomes what its answers make of it, with the edited draft. -/
theorem takeAll_of_edits (state : State) {turns : List Turn}
    (edits : ∀ event ∈ turns.filterMap Turn.event?, event.edit?.isSome = true) :
    state.takeAll turns = ((turns.filterMap Turn.answer?).foldl receive state).edit fun draft =>
      ((turns.filterMap Turn.event?).filterMap Event.edit?).foldl Draft.perform draft := by
  induction turns generalizing state with
  | nil => rfl
  | cons turn rest ih =>
      obtain ⟨input, clipboard⟩ := turn
      cases input with
      | event event =>
          have events : (({ input := .event event, clipboard := clipboard } : Turn) ::
              rest).filterMap Turn.event? = event :: rest.filterMap Turn.event? := rfl
          rw [events, List.forall_mem_cons] at edits
          obtain ⟨edit, asked⟩ := Option.isSome_iff_exists.mp edits.1
          have taken : state.take { input := .event event, clipboard := clipboard } =
              state.edit (·.perform edit) :=
            congrArg Prod.fst (state.handle_of_edit? clipboard asked)
          rw [takeAll_cons, taken, ih _ edits.2, foldl_receive_edit, events,
            List.filterMap_cons_some asked]
          rfl
      | answer answer => exact ih (state.receive answer) edits

end State

namespace Session

/-- Two sessions agree on what the events of the user decide. -/
structure Alike (left right : Session) : Prop where
  draft : left.state.draft = right.state.draft
  nextId : left.state.nextId = right.state.nextId
  file : left.file = right.file
  tree : left.tree = right.tree
  ended : left.ended = right.ended

/-- The draft that an event leaves. -/
def draftAt (session : Session) (turn : Turn) : List Draft :=
  turn.event?.toList.map fun _ => (session.take turn).1.state.draft

/-- The text that is saved because the user quits. -/
def savedAt (session : Session) (turn : Turn) : List String :=
  if turn.isQuit && !session.ended then [session.state.draft.text] else []

section Histories

variable (session : Session) (turns : List Turn)

def commands : List Command :=
  (session.takeAll turns).2.filterMap Effect.command?

/-- The drafts behind each event, oldest first. -/
def drafts : List Draft :=
  noted (fun session turn => (session.take turn).1) draftAt session turns

def savedTexts : List String :=
  noted (fun session turn => (session.take turn).1) savedAt session turns

end Histories

theorem commands_cons (session : Session) (turn : Turn) (rest : List Turn) :
    session.commands (turn :: rest) =
      (session.take turn).2.filterMap Effect.command? ++ (session.take turn).1.commands rest :=
  List.filterMap_append

theorem drafts_cons (session : Session) (turn : Turn) (rest : List Turn) :
    session.drafts (turn :: rest) =
      session.draftAt turn ++ (session.take turn).1.drafts rest := rfl

theorem savedTexts_cons (session : Session) (turn : Turn) (rest : List Turn) :
    session.savedTexts (turn :: rest) =
      session.savedAt turn ++ (session.take turn).1.savedTexts rest := rfl

namespace Alike

variable {left right : Session}

/-- An answer is taken on one side only. -/
private theorem take_answer_left (alike : left.Alike right) (answer : Answer)
    (clipboard : Clipboard) :
    (left.take { input := .answer answer, clipboard := clipboard }).1.Alike right ∧
      (left.take { input := .answer answer, clipboard := clipboard }).2.filterMap
        Effect.command? = [] := by
  cases ended : left.ended with
  | true =>
      rw [take_of_ended ended]
      exact ⟨alike, rfl⟩
  | false =>
      have notSend : Turn.isSend { input := .answer answer, clipboard := clipboard } = false := rfl
      have nextId := left.state.nextId_take_of_not_send notSend
      rw [take_answer ended]
      exact ⟨{ alike with
        draft := (left.state.draft_receive answer).trans alike.draft
        nextId := nextId.trans alike.nextId }, rfl⟩

private theorem nextId_handle (same : left.state.nextId = right.state.nextId) (event : Event)
    (first second : Clipboard) :
    (left.state.handle first event).1.nextId = (right.state.handle second event).1.nextId := by
  by_cases sends : event = .send
  · subst sends
    exact congrArg (· + 1) same
  · obtain ⟨_, _, _, _, handledLeft, -⟩ := left.state.handle_of_not_send first sends
    obtain ⟨_, _, _, _, handledRight, -⟩ := right.state.handle_of_not_send second sends
    rw [handledLeft, handledRight]
    exact same

/-- An event is taken on both sides. -/
private theorem take_event_both (alike : left.Alike right) (event : Event)
    (first second : Clipboard) :
    (left.take { input := .event event, clipboard := first }).1.Alike
        (right.take { input := .event event, clipboard := second }).1 ∧
      (left.take { input := .event event, clipboard := first }).2.filterMap Effect.command? =
        (right.take { input := .event event, clipboard := second }).2.filterMap
          Effect.command? := by
  cases ended : left.ended with
  | true =>
      rw [take_of_ended ended, take_of_ended (alike.ended.symm.trans ended)]
      exact ⟨alike, rfl⟩
  | false =>
      have running : right.ended = false := alike.ended.symm.trans ended
      by_cases quits : event = .quit
      · subst quits
        rw [take_quit ended, take_quit running]
        refine ⟨{ alike with tree := ?_, ended := rfl }, rfl⟩
        rw [alike.file, alike.tree, alike.draft]
      · rw [take_event ended quits, take_event running quits]
        constructor
        · refine { alike with draft := ?_, nextId := ?_ }
          · rw [State.draft_handle, State.draft_handle, alike.draft]
          · exact nextId_handle alike.nextId event first second
        · have next : left.state.nextHit = right.state.nextHit := by
            rw [State.nextHit, State.nextHit, alike.nextId, alike.draft]
          rw [List.filterMap_append, List.filterMap_append, State.commands_handle,
            State.commands_handle, State.hitAt, State.hitAt, next]
          rfl

/-- Without its answers a run does the same as far as the user decides. -/
private theorem takeAll_onlyEvents (alike : left.Alike right) (turns : List Turn) :
    left.commands turns = right.commands (onlyEvents turns) ∧
      left.drafts turns = right.drafts (onlyEvents turns) ∧
      left.savedTexts turns = right.savedTexts (onlyEvents turns) ∧
      (left.takeAll turns).1.Alike (right.takeAll (onlyEvents turns)).1 := by
  induction turns generalizing left right with
  | nil => exact ⟨rfl, rfl, rfl, alike⟩
  | cons turn rest ih =>
      obtain ⟨input, clipboard⟩ := turn
      cases input with
      | answer answer =>
          obtain ⟨later, quiet⟩ := alike.take_answer_left answer clipboard
          obtain ⟨commands, drafts, saved, last⟩ := ih later
          refine ⟨?_, drafts, saved, last⟩
          rw [commands_cons, quiet, commands]
          rfl
      | event event =>
          have events : onlyEvents ({ input := .event event, clipboard := clipboard } :: rest) =
              { input := .event event } :: onlyEvents rest := rfl
          obtain ⟨later, now⟩ := alike.take_event_both event clipboard .working
          obtain ⟨commands, drafts, saved, last⟩ := ih later
          rw [events]
          refine ⟨?_, ?_, ?_, last⟩
          · rw [commands_cons, commands_cons, now, commands]
          · rw [drafts_cons, drafts_cons, drafts]
            exact congrArg (fun draft => [draft] ++ _) later.draft
          · rw [savedTexts_cons, savedTexts_cons, saved, savedAt, savedAt, alike.ended,
              alike.draft]
            rfl

end Alike

private theorem alike_self (session : Session) : session.Alike session where
  draft := rfl
  nextId := rfl
  file := rfl
  tree := rfl
  ended := rfl

/-- What a running session becomes if all its events are edits. -/
private theorem takeAll_of_edits {session : Session} (running : session.ended = false)
    {turns : List Turn}
    (edits : ∀ event ∈ turns.filterMap Turn.event?, event.edit?.isSome = true) :
    (session.takeAll turns).1 =
      { session with
        state := ((turns.filterMap Turn.answer?).foldl State.receive session.state).edit
          fun draft => ((turns.filterMap Turn.event?).filterMap Event.edit?).foldl
            Draft.perform draft } := by
  have stays : ∀ turn ∈ turns, turn.isQuit = false := by
    intro turn member
    rw [← Bool.not_eq_true]
    intro quits
    have isQuit : turn.input = .event .quit := eq_of_beq quits
    have event : turn.event? = some .quit := by rw [Turn.event?, isQuit]
    exact absurd (edits .quit (List.mem_filterMap.mpr ⟨turn, member, event⟩)) Bool.false_ne_true
  obtain ⟨effects, taken, -⟩ := takeAll_of_running running stays
  rw [taken, State.takeAll_of_edits _ edits]

end Session

/-- Answers never interfere with what the user types or sends. Two runs from one session that got
the same events send the same commands, leave the same draft and cursor behind each event, and save
the same text, whatever answers each of them got in between. If the events are edits of the draft
and the answers are the same too, then both runs end in the same session, however the answers came
in between. -/
theorem answers_never_interfere (session : Session) (first second : List Turn)
    (same : first.filterMap Turn.event? = second.filterMap Turn.event?) :
    session.commands first = session.commands second ∧
    session.drafts first = session.drafts second ∧
    session.savedTexts first = session.savedTexts second ∧
    (session.takeAll first).1.tree = (session.takeAll second).1.tree ∧
    ((∀ event ∈ first.filterMap Turn.event?, event.edit?.isSome = true) →
      first.filterMap Turn.answer? = second.filterMap Turn.answer? →
      (session.takeAll first).1 = (session.takeAll second).1) := by
  have events : onlyEvents first = onlyEvents second := congrArg (List.map _) same
  obtain ⟨commands, drafts, saved, last⟩ := session.alike_self.takeAll_onlyEvents first
  obtain ⟨commands', drafts', saved', last'⟩ := session.alike_self.takeAll_onlyEvents second
  rw [events] at commands drafts saved last
  refine ⟨commands.trans commands'.symm, drafts.trans drafts'.symm, saved.trans saved'.symm,
    last.tree.trans last'.tree.symm, ?_⟩
  intro edits answers
  cases ended : session.ended with
  | true => rw [Session.takeAll_of_ended ended, Session.takeAll_of_ended ended]
  | false => rw [Session.takeAll_of_edits ended edits, same, answers,
      Session.takeAll_of_edits ended (same ▸ edits)]

/-- The answer to a request comes between two edits, or late and after a stale one; then the user
sends and quits. -/
theorem answers_never_interfere_late :
    let file : DraftFile := { base := "/home/me", path := "draft" }
    let session := Session.ofFile file { nodes := [(["draft"], .file [0x78])] } .working
    let waiting : Session := { session with state := session.state.send.1 }
    let answered : Turn := { input := .answer (.failed 1 "refused" 3) }
    let stale : Turn := { input := .answer (.failed 7 "stale" 4) }
    let send : Turn := { input := .event .send }
    let enter (char : Char) : Turn := { input := .event (.enterChar char) }
    let quit : Turn := { input := .event .quit }
    let first := [send, enter 'y', answered, enter 'z', send, quit]
    let second := [send, enter 'y', enter 'z', stale, send, answered, quit]
    first.filterMap Turn.event? = second.filterMap Turn.event? ∧
    session.commands first = session.commands second ∧
    session.commands second = [.hit 1 "x", .hit 2 "xyz", .shutdown] ∧
    session.savedTexts first = ["xyz"] ∧
    (waiting.takeAll [enter 'y', answered, enter 'z', stale]).1 =
      (waiting.takeAll [answered, stale, enter 'y', enter 'z']).1 := by
  intro file session waiting answered stale send enter quit first second
  have same : first.filterMap Turn.event? = second.filterMap Turn.event? := by decide
  obtain ⟨commands, -, saved, -⟩ := answers_never_interfere session first second same
  have edits : [enter 'y', answered, enter 'z', stale].filterMap Turn.event? =
      [answered, stale, enter 'y', enter 'z'].filterMap Turn.event? := by decide
  obtain ⟨-, -, -, -, order⟩ := answers_never_interfere waiting _ _ edits
  refine ⟨same, commands, by decide +kernel, ?_, order (by decide) (by decide)⟩
  rw [saved]
  decide +kernel

end HttpConsole.Console
