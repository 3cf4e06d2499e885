import HttpConsole.Proofs.Console.Handling
import HttpConsole.Proofs.Exchange.Ledger

/-! The way of every request between the console and the dispatcher. A request that was issued is
queued, open, answered, received or closed without an answer, and at each time exactly one of
these. -/

set_option autoImplicit false

namespace HttpConsole.Console

open HttpConsole.Exchange (Answer Closing Command Dispatcher Errand Hit Move Surroundings)

namespace Circuit

/-- The requests that are sent when something happens. -/
def hitsAt (circuit : Circuit) : Happening → List Hit
  | .event event clipboard =>
      ((circuit.state.handle clipboard event).2.filterMap Effect.command?).filterMap Command.hit?
  | _ => []

/-- The moves that the dispatcher makes when something happens. -/
def movesAt (circuit : Circuit) : Happening → List Move
  | .take => circuit.commands.head?.toList.map .take
  | .start number => [.start number]
  | .reply number reply => [.reply number reply]
  | _ => []

/-- The answer that the console takes when something happens. -/
def receivedAt (circuit : Circuit) : Happening → List Answer
  | .receive => circuit.answers.head?.toList
  | _ => []

section History

variable (world : Surroundings) (circuit : Circuit) (happenings : List Happening)

def history {Note : Type} (note : Circuit → Happening → List Note) : List Note :=
  noted (fun circuit happening => circuit.step world happening) note circuit happenings

/-- The requests sent, oldest first. -/
def issued : List Hit := circuit.history world happenings hitsAt

def moves : List Move := circuit.history world happenings movesAt

/-- The answers that came back to the console, oldest first. -/
def received : List Answer := circuit.history world happenings receivedAt

end History

theorem history_concat {Note : Type} (note : Circuit → Happening → List Note)
    (world : Surroundings) (circuit : Circuit) (earlier : List Happening) (happening : Happening) :
    circuit.history world (earlier ++ [happening]) note =
      circuit.history world earlier note ++ note (circuit.run world earlier) happening :=
  noted_concat ..

theorem run_concat (world : Surroundings) (circuit : Circuit) (earlier : List Happening)
    (happening : Happening) :
    circuit.run world (earlier ++ [happening]) =
      (circuit.run world earlier).step world happening :=
  List.foldl_concat ..

/-- The ids of the requests that are queued, running or answered but not received. -/
def underWay (circuit : Circuit) : List UInt64 :=
  (circuit.commands.filterMap Command.hit?).map Hit.id ++
    circuit.dispatcher.errands.map Errand.id ++ circuit.answers.map Answer.id

end Circuit

/-- Where the messages of a circuit are. -/
structure Routed (world : Surroundings) (circuit : Circuit) (moves : List Move)
    (issued : List Hit) (received : List Answer) : Prop where
  dispatcher : circuit.dispatcher = Dispatcher.after world moves
  running : circuit.dispatcher.running = true
  commands : ∃ queue : List Hit, circuit.commands = queue.map Hit.command ∧
    issued = Dispatcher.hits world moves ++ queue
  answers : (Dispatcher.closings world moves).filterMap Closing.answer? =
    received ++ circuit.answers

namespace Routed

variable {world : Surroundings} {circuit : Circuit} {moves : List Move} {issued : List Hit}
  {received : List Answer}

/-- No request is lost, and none is in two places. -/
theorem underWay_perm (routed : Routed world circuit moves issued received) :
    (circuit.underWay ++ received.map Answer.id ++ Dispatcher.unanswered world moves).Perm
      (issued.map Hit.id) := by
  have running := routed.running
  obtain ⟨queue, queued, issuedEq⟩ := routed.commands
  rw [routed.dispatcher] at running
  have taken := (Dispatcher.ledger world moves).answered_perm running
  have waiting : circuit.commands.filterMap Command.hit? = queue := by
    rw [queued, List.filterMap_map]
    exact List.filterMap_some
  rw [routed.answers, ← routed.dispatcher] at taken
  rw [issuedEq]
  -- The parts stand in different orders on the two sides, so each id is counted.
  refine List.perm_iff_count.mpr fun id => ?_
  have counted := taken.count_eq id
  simp only [Circuit.underWay, Dispatcher.unanswered, waiting, List.map_append,
    List.count_append] at counted ⊢
  omega

private theorem event (routed : Routed world circuit moves issued received) (event : Event)
    (clipboard : Clipboard) :
    Routed world (circuit.step world (.event event clipboard)) moves
      (issued ++ circuit.hitsAt (.event event clipboard)) received := by
  obtain ⟨queue, queued, issuedEq⟩ := routed.commands
  refine {
    dispatcher := routed.dispatcher
    running := routed.running
    answers := routed.answers
    commands := ⟨queue ++ circuit.hitsAt (.event event clipboard), ?_, ?_⟩ }
  · simp only [Circuit.step, Circuit.hitsAt, queued, List.map_append, List.append_cancel_left_eq]
    by_cases sending : event = .send
    · subst sending
      rfl
    · obtain ⟨_, _, _, effects, handled, nothing, -⟩ :=
        circuit.state.handle_of_not_send clipboard sending
      rw [handled, nothing]
      rfl
  · rw [issuedEq, List.append_assoc]

private theorem take (routed : Routed world circuit moves issued received) :
    Routed world (circuit.step world .take) (moves ++ circuit.movesAt .take) issued received := by
  obtain ⟨queue, queued, issuedEq⟩ := routed.commands
  cases queue with
  | nil =>
      rw [List.map_nil] at queued
      simpa [Circuit.step, Circuit.movesAt, queued] using routed
  | cons first rest =>
      rw [List.map_cons] at queued
      have running := routed.running
      rw [routed.dispatcher] at running
      have hits : Dispatcher.hits world (moves ++ [.take first.command]) =
          Dispatcher.hits world moves ++ [first] := by
        rw [Dispatcher.hits_concat]
        simp only [Dispatcher.hitOf, running, if_true, Hit.hit?_command, Option.toList_some]
      have closed : Dispatcher.closings world (moves ++ [.take first.command]) =
          Dispatcher.closings world moves := by
        rw [Dispatcher.closings_concat]
        exact List.append_nil _
      simp only [Circuit.step, Circuit.movesAt, queued, List.head?_cons, Option.toList_some,
        List.map_cons, List.map_nil]
      refine {
        dispatcher := ?_
        running := ?_
        commands := ⟨rest, rfl, by rw [hits, issuedEq, List.append_assoc]; rfl⟩
        answers := ?_ }
      · rw [Dispatcher.after_concat, ← routed.dispatcher]
        rfl
      · rw [← routed.dispatcher] at running
        simp [Circuit.move, Dispatcher.step, Dispatcher.take, Hit.command, running]
      · rw [closed]
        simpa [Circuit.move, Dispatcher.step] using routed.answers

/-- The dispatcher moves on without taking a command. -/
private theorem move (routed : Routed world circuit moves issued received) {move : Move}
    (running : (circuit.dispatcher.next world move).running = circuit.dispatcher.running)
    (nothing : ∀ dispatcher : Dispatcher, dispatcher.hitOf move = []) :
    Routed world (circuit.move world move) (moves ++ [move]) issued received := by
  obtain ⟨queue, queued, issuedEq⟩ := routed.commands
  refine {
    dispatcher := ?_
    running := running.trans routed.running
    commands := ⟨queue, queued, ?_⟩
    answers := ?_ }
  · rw [Dispatcher.after_concat, ← routed.dispatcher]
    rfl
  · rw [Dispatcher.hits_concat, nothing, List.append_nil, issuedEq]
  · rw [Dispatcher.closings_concat, List.filterMap_append, routed.answers, ← routed.dispatcher,
      List.append_assoc, Dispatcher.filterMap_answer?_closingsOf]
    rfl

private theorem receive (routed : Routed world circuit moves issued received) :
    Routed world (circuit.step world .receive) moves issued
      (received ++ circuit.receivedAt .receive) := by
  cases waiting : circuit.answers with
  | nil => simpa [Circuit.step, Circuit.receivedAt, waiting] using routed
  | cons answer rest =>
      simp only [Circuit.step, Circuit.receivedAt, waiting, List.head?_cons, Option.toList_some]
      refine { routed with answers := ?_ }
      rw [routed.answers, waiting, List.append_assoc]
      rfl

theorem step (routed : Routed world circuit moves issued received) (happening : Happening) :
    Routed world (circuit.step world happening) (moves ++ circuit.movesAt happening)
      (issued ++ circuit.hitsAt happening) (received ++ circuit.receivedAt happening) := by
  cases happening with
  | event event clipboard =>
      simpa [Circuit.movesAt, Circuit.receivedAt] using routed.event event clipboard
  | take => simpa [Circuit.hitsAt, Circuit.receivedAt] using routed.take
  | start number =>
      simpa [Circuit.hitsAt, Circuit.receivedAt, Circuit.movesAt, Circuit.step] using
        routed.move (Dispatcher.running_start world _ number) fun _ => rfl
  | reply number reply =>
      simpa [Circuit.hitsAt, Circuit.receivedAt, Circuit.movesAt, Circuit.step] using
        routed.move (Dispatcher.running_reply world _ number reply) fun _ => rfl
  | receive => simpa [Circuit.hitsAt, Circuit.movesAt] using routed.receive

end Routed

theorem Circuit.routed (world : Surroundings) (text : String) (happenings : List Happening) :
    Routed world ((ofDraftText text).run world happenings)
      ((ofDraftText text).moves world happenings) ((ofDraftText text).issued world happenings)
      ((ofDraftText text).received world happenings) := by
  induction happenings using List.reverseRecOn with
  | nil => exact { dispatcher := rfl, running := rfl, commands := ⟨[], rfl, rfl⟩, answers := rfl }
  | append_singleton earlier happening ih =>
      simpa only [run_concat, moves, issued, received, history_concat] using ih.step happening

end HttpConsole.Console
