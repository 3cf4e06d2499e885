import HttpConsole.Proofs.Console.Editing
import HttpConsole.Proofs.Console.Turns
import HttpConsole.Proofs.Console.Waiting
import HttpConsole.Proofs.Storage.DraftFile

/-! What can be seen of a session from its first snapshot to its last command, and what the next
session finds. The clipboard may change from turn to turn. -/

set_option autoImplicit false

namespace HttpConsole.Console

open HttpConsole.Exchange (Answer Hit)
open HttpConsole.Storage (DraftFile FileTree)
open HttpConsole.Text (byteLength)

def Turn.isQuit (turn : Turn) : Bool :=
  turn.input == .event .quit

def Turn.isSend (turn : Turn) : Bool :=
  turn.input == .event .send

def Effect.drawn? : Effect → Option Snapshot
  | .draw snapshot => some snapshot
  | _ => none

private theorem drawn_ofCopied (copied : Option String) :
    (Effect.ofCopied copied).filterMap Effect.drawn? = [] := by
  cases copied <;> rfl

namespace State

theorem drawn_handle (state : State) (clipboard : Clipboard) (event : Event) :
    (state.handle clipboard event).2.filterMap Effect.drawn? = [] := by
  cases event with
  | copyResult => exact drawn_ofCopied _
  | copyHeaders => exact drawn_ofCopied _
  | copySelected => exact drawn_ofCopied _
  | _ => rfl

def hitAt (state : State) (turn : Turn) : List Hit :=
  if turn.isSend then [state.nextHit] else []

def hitsOver (state : State) (turns : List Turn) : List Hit :=
  noted take hitAt state turns

theorem commands_handle (state : State) (clipboard : Clipboard) (event : Event) :
    (state.handle clipboard event).2.filterMap Effect.command? =
      (state.hitAt { input := .event event, clipboard := clipboard }).map Hit.command := by
  by_cases send : event = .send
  · subst send
    rfl
  · obtain ⟨draft, view, error, effects, handled, nothing, -⟩ :=
      state.handle_of_not_send clipboard send
    have notSend : Turn.isSend { input := .event event, clipboard := clipboard } = false :=
      beq_false_of_ne fun same => send (Input.event.inj same)
    rw [handled, nothing, hitAt, notSend]
    rfl

theorem takeAll_cons (state : State) (turn : Turn) (rest : List Turn) :
    state.takeAll (turn :: rest) = (state.take turn).takeAll rest := rfl

theorem hitsOver_cons (state : State) (turn : Turn) (rest : List Turn) :
    state.hitsOver (turn :: rest) = state.hitAt turn ++ (state.take turn).hitsOver rest := rfl

theorem nextId_take_of_not_send (state : State) {turn : Turn} (notSend : turn.isSend = false) :
    (state.take turn).nextId = state.nextId := by
  obtain ⟨input, clipboard⟩ := turn
  cases input with
  | event event =>
      have other : event ≠ .send := by
        rintro rfl
        cases notSend
      obtain ⟨draft, view, error, effects, handled, -⟩ := state.handle_of_not_send clipboard other
      exact congrArg (fun outcome => outcome.1.nextId) handled
  | answer answer =>
      change (state.receive answer).nextId = state.nextId
      rw [receive]
      split
      · cases answer <;> rfl
      · rfl

theorem nextId_take_of_send (state : State) {turn : Turn} (send : turn.isSend = true) :
    (state.take turn).nextId = state.nextId + 1 := by
  obtain ⟨input, clipboard⟩ := turn
  have same : input = .event .send := eq_of_beq send
  rw [same]
  rfl

/-- The ids of requests follow each other, as long as there are ids left. -/
theorem ids_hitsOver (state : State) (turns : List Turn)
    (room : state.nextId.toNat + turns.countP Turn.isSend < UInt64.size) :
    (state.hitsOver turns).map (·.id.toNat) =
      List.range' state.nextId.toNat (turns.countP Turn.isSend) := by
  induction turns generalizing state with
  | nil => rfl
  | cons turn rest ih =>
      cases sends : turn.isSend with
      | false =>
          have nextId := state.nextId_take_of_not_send sends
          rw [List.countP_cons_of_neg (by simp [sends])] at room ⊢
          rw [hitsOver_cons, hitAt, sends, ← nextId]
          exact ih _ (nextId ▸ room)
      | true =>
          rw [List.countP_cons_of_pos sends] at room ⊢
          have nextId : (state.take turn).nextId.toNat = state.nextId.toNat + 1 := by
            rw [state.nextId_take_of_send sends, UInt64.toNat_add]
            exact Nat.mod_eq_of_lt (by change _ + 1 < UInt64.size; omega)
          have later := ih (state.take turn) (by omega)
          rw [nextId] at later
          rw [hitsOver_cons, hitAt, sends, if_pos rfl, List.map_append, later, List.range'_succ]
          rfl

/-- Each request has the text that the draft has when it is sent. -/
theorem texts_hitsOver (state : State) (turns : List Turn) :
    (state.hitsOver turns).map Hit.text = (turns.findIdxs Turn.isSend).map fun place =>
      (state.takeAll (turns.take place)).draft.text := by
  induction turns generalizing state with
  | nil => rfl
  | cons turn rest ih =>
      have later : ((state.take turn).hitsOver rest).map Hit.text =
          (rest.findIdxs Turn.isSend 1).map fun place =>
            (state.takeAll ((turn :: rest).take place)).draft.text := by
        have shifted : rest.findIdxs Turn.isSend 1 = (rest.findIdxs Turn.isSend).map (· + 1) :=
          List.findIdxs_start
        rw [ih, shifted, List.map_map]
        rfl
      rw [hitsOver_cons, List.map_append, later, List.findIdxs_cons, hitAt]
      split
      · rfl
      · rfl

end State

namespace Session

-- The clipboard of a turn is there for this turn only.
def take (session : Session) (turn : Turn) : Session × List Effect :=
  let (next, effects) := { session with clipboard := turn.clipboard }.step turn.input
  ({ next with clipboard := session.clipboard }, effects)

def takeAll (session : Session) : List Turn → Session × List Effect
  | [] => (session, [])
  | turn :: rest =>
      let (next, effects) := session.take turn
      let (last, later) := next.takeAll rest
      (last, effects ++ later)

theorem takeAll_cons (session : Session) (turn : Turn) (rest : List Turn) :
    session.takeAll (turn :: rest) =
      (((session.take turn).1.takeAll rest).1,
        (session.take turn).2 ++ ((session.take turn).1.takeAll rest).2) := rfl

theorem takeAll_append (session : Session) (first second : List Turn) :
    session.takeAll (first ++ second) =
      (((session.takeAll first).1.takeAll second).1,
        (session.takeAll first).2 ++ ((session.takeAll first).1.takeAll second).2) := by
  induction first generalizing session with
  | nil => rfl
  | cons turn rest ih =>
      rw [List.cons_append, takeAll_cons, ih, takeAll_cons, List.append_assoc]

theorem clipboard_step (session : Session) (input : Input) :
    (session.step input).1.clipboard = session.clipboard := by
  unfold step
  split
  · rfl
  · split <;> rfl

theorem take_own_clipboard (session : Session) (input : Input) :
    session.take { input := input, clipboard := session.clipboard } = session.step input := by
  have same := session.clipboard_step input
  change ({ (session.step input).1 with clipboard := session.clipboard },
    (session.step input).2) = session.step input
  rw [← same]

/-- If the clipboard stays as it is, taking turns is what a session does when it runs. -/
theorem run_eq_takeAll (session : Session) {turns : List Turn}
    (same : ∀ turn ∈ turns, turn.clipboard = session.clipboard) :
    session.run (turns.map Turn.input) = session.takeAll turns := by
  induction turns generalizing session with
  | nil => rfl
  | cons turn rest ih =>
      have own : session.take turn = session.step turn.input := by
        rw [← take_own_clipboard, ← same turn List.mem_cons_self]
      have later := ih (session.step turn.input).1 fun other member => by
        rw [clipboard_step]
        exact same other (List.mem_cons_of_mem turn member)
      rw [takeAll_cons, own, ← later]
      rfl

theorem take_of_ended {session : Session} (ended : session.ended = true) (turn : Turn) :
    session.take turn = (session, []) := by
  unfold take step
  rw [if_pos ended]

theorem takeAll_of_ended {session : Session} (ended : session.ended = true) (turns : List Turn) :
    session.takeAll turns = (session, []) := by
  induction turns with
  | nil => rfl
  | cons turn rest ih =>
      rw [takeAll_cons, take_of_ended ended, ih]
      rfl

section Running

variable {session : Session}

theorem take_event (running : session.ended = false) {event : Event} (stays : event ≠ .quit)
    (clipboard : Clipboard) : session.take { input := .event event, clipboard := clipboard } =
      ({ session with state := (session.state.handle clipboard event).1 },
        (session.state.handle clipboard event).2 ++
          [.draw (session.state.handle clipboard event).1.snapshot]) := by
  cases event with
  | quit => exact absurd rfl stays
  | _ =>
      unfold take step
      simp only [running, Bool.false_eq_true, if_false]

theorem take_answer (running : session.ended = false) (answer : Answer) (clipboard : Clipboard) :
    session.take { input := .answer answer, clipboard := clipboard } =
      ({ session with state := session.state.receive answer },
        [.draw (session.state.receive answer).snapshot]) := by
  unfold take step
  simp only [running, Bool.false_eq_true, if_false]

theorem take_quit (running : session.ended = false) (clipboard : Clipboard) :
    session.take { input := .event .quit, clipboard := clipboard } =
      ({ session with
          tree := session.file.save session.tree session.state.draft.text
          ended := true },
        [.send .shutdown]) := by
  unfold take step
  simp only [running, Bool.false_eq_true, if_false]

/-- What a session does with a turn that does not end it. -/
theorem take_of_running (running : session.ended = false) {turn : Turn}
    (stays : turn.isQuit = false) : ∃ effects,
    session.take turn = ({ session with state := session.state.take turn }, effects) ∧
    effects.filterMap Effect.drawn? = [(session.state.take turn).snapshot] ∧
    effects.filterMap Effect.command? = (session.state.hitAt turn).map Hit.command := by
  obtain ⟨input, clipboard⟩ := turn
  cases input with
  | event event =>
      have other : event ≠ .quit := by
        rintro rfl
        cases stays
      refine ⟨_, take_event running other clipboard, ?_, ?_⟩
      · rw [List.filterMap_append, State.drawn_handle]
        rfl
      · rw [List.filterMap_append, State.commands_handle]
        exact List.append_nil _
  | answer answer => exact ⟨_, take_answer running answer clipboard, rfl, rfl⟩

/-- Until it ends, a session draws the state after each turn and sends what is to be sent. -/
theorem takeAll_of_running (running : session.ended = false) {turns : List Turn}
    (stays : ∀ turn ∈ turns, turn.isQuit = false) : ∃ effects,
    session.takeAll turns = ({ session with state := session.state.takeAll turns }, effects) ∧
    effects.filterMap Effect.drawn? = (List.range turns.length).map (fun count =>
      (session.state.takeAll (turns.take (count + 1))).snapshot) ∧
    effects.filterMap Effect.command? = (session.state.hitsOver turns).map Hit.command := by
  induction turns generalizing session with
  | nil => exact ⟨[], rfl, rfl, rfl⟩
  | cons turn rest ih =>
      have staysNow := stays turn List.mem_cons_self
      obtain ⟨effects, taken, draws, commands⟩ := take_of_running running staysNow
      obtain ⟨later, takenLater, drawsLater, commandsLater⟩ :=
        @ih { session with state := session.state.take turn } running
          fun other member => stays other (List.mem_cons_of_mem _ member)
      refine ⟨effects ++ later, ?_, ?_, ?_⟩
      · rw [takeAll_cons, taken, takenLater]
        rfl
      · rw [List.filterMap_append, draws, drawsLater, List.length_cons, List.range_succ_eq_map,
          List.map_cons, List.map_map]
        rfl
      · rw [List.filterMap_append, commands, commandsLater, State.hitsOver_cons, List.map_append]

/-- Quitting saves the draft and ends the session, whatever else is there to be taken. -/
theorem takeAll_quit (running : session.ended = false) {quit : Turn} (quits : quit.isQuit = true)
    (later : List Turn) : session.takeAll (quit :: later) =
      ({ session with
          tree := session.file.save session.tree session.state.draft.text
          ended := true },
        [.send .shutdown]) := by
  obtain ⟨input, clipboard⟩ := quit
  have isQuit : input = .event .quit := eq_of_beq quits
  rw [isQuit, takeAll_cons, take_quit running, takeAll_of_ended rfl]
  rfl

theorem takeAll_until_quit (running : session.ended = false) {before : List Turn}
    (stays : ∀ turn ∈ before, turn.isQuit = false) {quit : Turn} (quits : quit.isQuit = true)
    (later : List Turn) : session.takeAll (before ++ quit :: later) =
      ({ session with
          state := session.state.takeAll before
          tree := session.file.save session.tree (session.state.takeAll before).draft.text
          ended := true },
        (session.takeAll before).2 ++ [.send .shutdown]) := by
  obtain ⟨effects, taken, -⟩ := takeAll_of_running running stays
  have still : (session.takeAll before).1.ended = false := by rw [taken]; exact running
  rw [takeAll_append, takeAll_quit still quits, taken]

end Running

end Session

/-- A session draws the title, the draft, the result in view, the time, the waiting and the error as
they are before its first turn and behind each turn before quitting, sends each request under the
next id and shutdown at last, and takes nothing afterwards. A draft that could be saved is there for
the next session. -/
theorem session_trace (file : DraftFile) (tree : FileTree) (clipboard : Clipboard)
    (before later : List Turn) (quit : Turn) (quits : quit.isQuit = true)
    (stays : ∀ turn ∈ before, turn.isQuit = false)
    (few : before.countP Turn.isSend < UInt64.size - 1) :
    let start := Session.ofFile file tree clipboard
    let reached (count : Nat) := start.state.takeAll (before.take count)
    let draft := (start.state.takeAll before).draft.text
    let trace := start.takeAll (before ++ quit :: later)
    (start.greeting ++ trace.2).filterMap Effect.drawn? =
      (List.range (before.length + 1)).map (fun count => {
        title := (reached count).title
        draft := (reached count).draft
        view := (reached count).view
        elapsed := (reached count).elapsed
        isLoading := (reached count).isLoading
        error := (reached count).error }) ∧
    ((∀ turn ∈ before ++ quit :: later, turn.clipboard = clipboard) →
      start.run ((before ++ quit :: later).map Turn.input) = trace) ∧
    (∃ hits : List Hit,
      trace.2.filterMap Effect.command? = hits.map Hit.command ++ [.shutdown] ∧
      hits.map (·.id.toNat) = List.range' 1 (before.countP Turn.isSend) ∧
      hits.map Hit.text =
        (before.findIdxs Turn.isSend).map fun place => (reached place).draft.text) ∧
    trace = start.takeAll (before ++ [quit]) ∧ trace.1.ended = true ∧
    trace.1.tree = file.save tree draft ∧
    ∀ saved, file.trySave tree draft = .ok saved →
      trace.1.tree.read file.names = .ok (Text.encode draft) ∧
      ∀ other, (Session.ofFile file trace.1.tree other).state.draft =
        { text := draft, cursor := byteLength (firstLine draft.toList) } := by
  intro start reached draft trace
  have running : start.ended = false := rfl
  obtain ⟨effects, taken, draws, commands⟩ := Session.takeAll_of_running running stays
  have traced : trace = _ := Session.takeAll_until_quit running stays quits later
  -- The first id is 1, which leaves room for one id fewer than there are numbers.
  have firstId : start.state.nextId.toNat = 1 := rfl
  have ids := start.state.ids_hitsOver before (by omega)
  rw [taken] at traced
  refine ⟨?_, fun same => start.run_eq_takeAll same,
    ⟨start.state.hitsOver before, ?_, ids, start.state.texts_hitsOver before⟩, ?_, ?_, ?_,
    fun saved done => ?_⟩
  · rw [traced, List.filterMap_append, List.filterMap_append, draws, List.range_succ_eq_map,
      List.map_cons, List.map_map]
    exact congrArg (_ :: ·) (List.append_nil _)
  · rw [traced, List.filterMap_append, commands]
    rfl
  · rw [traced, Session.takeAll_until_quit running stays quits [], taken]
  · rw [traced]
  · rw [traced]
    rfl
  · have kept : trace.1.tree = saved := by
      rw [traced]
      change (file.trySave tree draft).toOption.getD tree = saved
      rw [done]
      rfl
    rw [kept]
    refine ⟨DraftFile.read_trySave done, fun other => ?_⟩
    change Draft.ofText (file.load saved) = _
    have cursor := congrArg Draft.cursor (Draft.ofText_eq_draft draft)
    rw [DraftFile.load_trySave done]
    exact congrArg (Draft.mk draft) cursor

/-- An emptied draft stays empty in the next session, and what is typed behind quitting is lost. -/
theorem session_trace_of_emptied_draft :
    let file : DraftFile := { base := "/home/me", path := "draft" }
    let tree : FileTree := { nodes := [(["draft"], .file [0x78])] }
    let before : List Turn := [{ input := .event .send }, { input := .event .deleteBackward }]
    let later : List Turn := [{ input := .event (.enterChar 'y') }]
    let start := Session.ofFile file tree .working
    let turns := before ++ { input := .event .quit } :: later
    let trace := start.takeAll turns
    start.run (turns.map Turn.input) = trace ∧
    trace.2.filterMap Effect.command? = [.hit 1 "x", .shutdown] ∧
    (start.greeting ++ trace.2).length = 5 ∧
    (Session.ofFile file trace.1.tree .working).state.draft = { text := "", cursor := 0 } := by
  intro file tree before later start turns trace
  have stays : ∀ turn ∈ before, turn.isQuit = false := by decide
  obtain ⟨-, runs, -, -, -, -, saves⟩ := session_trace file tree .working before later
    { input := .event .quit } rfl stays (by decide)
  have emptied : (start.state.takeAll before).draft.text = "" := by decide +kernel
  have done : file.trySave tree "" = .ok { nodes := [(["draft"], .file [])] } := by
    decide +kernel
  rw [emptied] at saves
  obtain ⟨-, next⟩ := saves _ done
  exact ⟨runs (by decide), by decide +kernel, by decide +kernel, next .working⟩

end HttpConsole.Console
