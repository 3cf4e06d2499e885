import HttpConsole.Proofs.Console.Waiting
import HttpConsole.Proofs.Exchange.Crowded

/-! The latest request wins. Requests overlap and end in any order, yet once nothing is on the way
any more the console shows how the latest one ended, unless that one has crashed. -/

set_option autoImplicit false

namespace HttpConsole.Exchange.Answer

def lines : Answer → List String
  | .completed _ report _ => report.toLines
  | .failed _ _ _ => []

def message? : Answer → Option String
  | .completed _ _ _ => none
  | .failed _ message _ => some message

def elapsed : Answer → UInt64
  | .completed _ _ elapsed => elapsed
  | .failed _ _ elapsed => elapsed

end HttpConsole.Exchange.Answer

namespace HttpConsole.Console

open HttpConsole.Exchange (Answer Closing Dispatcher Hit Move Reply Surroundings prepare
  progressOf)

namespace Circuit

/-- What happened before the last request was sent. -/
def LastSend (happenings before : List Happening) : Prop :=
  ∃ clipboard after, happenings = before ++ .event .send clipboard :: after ∧
    ∀ happening ∈ after, happening.isSend = false

theorem LastSend.countP_isSend {happenings before : List Happening}
    (last : LastSend happenings before) :
    happenings.countP Happening.isSend = before.countP Happening.isSend + 1 := by
  obtain ⟨clipboard, after, rfl, calm⟩ := last
  have none : after.countP Happening.isSend = 0 :=
    List.countP_eq_zero.mpr fun happening member => by simp [calm happening member]
  rw [List.countP_append, List.countP_cons, none]
  rfl

/-- The draft at the last sending is the text of the latest request. -/
theorem exists_lastSend (world : Surroundings) (circuit : Circuit) (happenings : List Happening)
    {hit : Hit} (latest : (circuit.issued world happenings).getLast? = some hit) :
    ∃ before, LastSend happenings before ∧ hit = (circuit.run world before).state.nextHit := by
  induction happenings using List.reverseRecOn with
  | nil => simp [issued, history, noted] at latest
  | append_singleton earlier happening ih =>
      rw [issued, history_concat] at latest
      cases sending : happening.isSend with
      | false =>
          rw [hitsAt_of_not_send _ sending, List.append_nil] at latest
          obtain ⟨before, ⟨clipboard, after, rfl, calm⟩, same⟩ := ih latest
          refine ⟨before, ⟨clipboard, after ++ [happening], by simp, ?_⟩, same⟩
          intro other member
          rcases List.mem_append.mp member with old | new
          · exact calm other old
          · rw [List.mem_singleton] at new
            rw [new, sending]
      | true =>
          obtain ⟨clipboard, rfl⟩ := Happening.eq_send_of_isSend sending
          rw [hitsAt_send, List.getLast?_concat] at latest
          cases latest
          exact ⟨earlier, ⟨clipboard, [], rfl, by simp⟩, rfl⟩

end Circuit

/-- An answer is the last one that was taken up, `earlier` happening before it and `later` behind
it. -/
structure LastApplied (world : Surroundings) (circuit : Circuit) (earlier later : List Happening)
    (answer : Answer) : Prop where
  arrived : (circuit.run world earlier).answers.head? = some answer
  awaited : (circuit.run world earlier).state.pendingId = some answer.id
  last : (circuit.run world (earlier ++ [.receive])).applied world later = []

/-- The result of an answer is in view, and so is its message unless something was copied later. -/
structure AnswerShown (state : State) (answer : Answer) (later : List Happening) : Prop where
  lines : state.view.lines = answer.lines
  elapsed : state.elapsed = some answer.elapsed
  message : (∀ happening ∈ later, happening.isCopy = false) → state.error = answer.message?

private theorem answerShown_apply (state : State) (answer : Answer) :
    AnswerShown (state.apply answer) answer [] := by
  cases answer <;> exact { lines := rfl, elapsed := rfl, message := fun _ => rfl }

/-- What is shown stays as long as no answer is taken up. -/
private theorem shown_step (world : Surroundings) (circuit : Circuit) {happening : Happening}
    (quiet : circuit.appliedAt happening = []) :
    (circuit.step world happening).state.view.lines = circuit.state.view.lines ∧
      (circuit.step world happening).state.elapsed = circuit.state.elapsed ∧
      (happening.isCopy = false →
        (circuit.step world happening).state.error = circuit.state.error) := by
  cases happening with
  | event event clipboard =>
      rw [Circuit.state_step_event]
      by_cases sending : event = .send
      · subst sending
        exact ⟨rfl, rfl, fun _ => rfl⟩
      · obtain ⟨draft, view, error, effects, handled, -, lines, kept⟩ :=
          circuit.state.handle_of_not_send clipboard sending
        rw [handled]
        exact ⟨lines, rfl, kept⟩
  | take => simp
  | start number => simp
  | reply number reply => simp
  | receive =>
      cases arrived : circuit.answers with
      | nil => simp [Circuit.step, arrived]
      | cons answer rest =>
          have ignored : circuit.state.pendingId ≠ some answer.id := by
            simpa [Circuit.appliedAt, Circuit.receivedAt, arrived] using quiet
          simp [Circuit.step, arrived, State.receive, ignored]

theorem Circuit.exists_lastApplied (world : Surroundings) (circuit : Circuit)
    (happenings : List Happening) {answer : Answer}
    (latest : (circuit.applied world happenings).getLast? = some answer) :
    ∃ earlier later, happenings = earlier ++ .receive :: later ∧
      LastApplied world circuit earlier later answer ∧
      AnswerShown (circuit.run world happenings).state answer later := by
  induction happenings using List.reverseRecOn with
  | nil => simp [applied, history, noted] at latest
  | append_singleton before happening ih =>
      rw [applied, history_concat] at latest
      by_cases quiet : (circuit.run world before).appliedAt happening = []
      · rw [quiet, List.append_nil] at latest
        obtain ⟨earlier, later, rfl, applied, shown⟩ := ih latest
        obtain ⟨lines, elapsed, error⟩ := shown_step world _ quiet
        rw [← run_concat] at lines elapsed error
        refine ⟨earlier, later ++ [happening], by simp, ?_, ?_⟩
        · have reached : (circuit.run world (earlier ++ [.receive])).run world later =
              circuit.run world (earlier ++ .receive :: later) := by
            simp [run, List.foldl_append]
          refine { applied with last := ?_ }
          rw [Circuit.applied, history_concat, reached, quiet, List.append_nil]
          exact applied.last
        · exact {
            lines := lines.trans shown.lines
            elapsed := elapsed.trans shown.elapsed
            message := fun uncopied => (error (uncopied happening (by simp))).trans
              (shown.message fun other member => uncopied other (List.mem_append_left _ member)) }
      · obtain ⟨taker, rfl, taken, arrived, awaited⟩ := appliedAt_cases quiet
        rw [taken, List.getLast?_concat] at latest
        cases latest
        have same := state_step_receive world arrived awaited
        rw [← run_concat] at same
        refine ⟨before, [], rfl, { arrived := arrived, awaited := awaited, last := rfl }, ?_⟩
        rw [same]
        exact answerShown_apply _ answer

private theorem getLast?_map_id {issued : List Hit} {hit : Hit}
    (latest : issued.getLast? = some hit) : (issued.map Hit.id).getLast? = some hit.id := by
  rw [List.getLast?_map, latest]
  rfl

section Latest

variable {world : Surroundings} {circuit : Circuit} {moves : List Move}
  {issued : List Hit} {received applied : List Answer}
  (routed : Routed world circuit moves issued received)
  (waiting : Waiting circuit.state issued received applied)

include routed waiting

/-- What is closed under the latest id is the latest request. -/
private theorem closing_of_latest (bound : issued.length < UInt64.size) {hit : Hit}
    (latest : issued.getLast? = some hit) {closing : Closing}
    (closed : closing ∈ Dispatcher.closings world moves) (same : closing.id = hit.id) :
    ∃ ending, progressOf (world.agent (issued.length - 1)) hit.text
        (Dispatcher.heard world moves (issued.length - 1)) = .ended ending ∧
      closing.answer? = Answer.ofEnding? hit.id (world.elapsed (issued.length - 1)) ending := by
  obtain ⟨asked, ending, found, ends, made⟩ :=
    (Dispatcher.ledger world moves).resulting closing closed
  obtain ⟨queue, -, issuedEq⟩ := routed.commands
  have found : issued[closing.number]? = some asked := by
    rw [issuedEq, List.getElem?_append_left (List.getElem?_eq_some_iff.mp found).1, found]
  rw [List.getLast?_eq_getElem?] at latest
  -- Ids do not repeat, so the number of the latest id is that of the latest request.
  have position : closing.number = issued.length - 1 := by
    have below := (List.getElem?_eq_some_iff.mp found).1
    refine requestId_injective (by omega) (by omega) ?_
    rw [← waiting.id_eq found, ← waiting.id_eq latest, ← same, made]
    rfl
  rw [position] at found ends made
  rw [latest] at found
  cases found
  exact ⟨ending, ends, by rw [made]; rfl⟩

private theorem crash_of_unanswered (bound : issued.length < UInt64.size) {hit : Hit}
    (latest : issued.getLast? = some hit) (gone : hit.id ∈ Dispatcher.unanswered world moves) :
    prepare (world.agent (issued.length - 1)).toTools hit.text = .error .crash := by
  obtain ⟨closing, member, same⟩ := List.mem_map.mp gone
  obtain ⟨closed, silent⟩ := List.mem_filter.mp member
  obtain ⟨ending, ends, made⟩ := closing_of_latest routed waiting bound latest closed same
  rw [Option.isNone_iff_eq_none.mp silent] at made
  cases ending with
  | report report => cases made
  | failure failure => cases made
  | crash => exact Exchange.prepare_of_crash ends

omit routed in
/-- Of the latest request an answer came back, or the console waits for it. -/
private theorem latest_cases {hit : Hit} (latest : issued.getLast? = some hit) :
    (hit.id ∈ received.map Answer.id ∧ circuit.state.pendingId = none) ∨
      (hit.id ∉ received.map Answer.id ∧ circuit.state.pendingId = some hit.id) := by
  have latestId := getLast?_map_id latest
  by_cases came : hit.id ∈ received.map Answer.id
  · refine .inl ⟨came, Option.eq_none_iff_forall_ne_some.mpr fun id pending => ?_⟩
    obtain ⟨other, absent⟩ := (waiting.pending id).mp pending
    rw [latestId] at other
    cases other
    exact absent came
  · exact .inr ⟨came, (waiting.pending hit.id).mpr ⟨latestId, came⟩⟩

omit waiting in
/-- The id that is waited for is in one place only, or its request has crashed. -/
private theorem count_underWay (distinct : (issued.map Hit.id).Nodup) {hit : Hit}
    (latest : issued.getLast? = some hit) (absent : hit.id ∉ received.map Answer.id) :
    circuit.underWay.count hit.id = 1 ∨
      (circuit.underWay.count hit.id = 0 ∧ hit.id ∈ Dispatcher.unanswered world moves) := by
  have member : hit.id ∈ issued.map Hit.id := List.mem_map_of_mem (List.mem_of_getLast? latest)
  have counted := routed.underWay_perm.count_eq hit.id
  rw [List.count_append, List.count_append, List.count_eq_zero_of_not_mem absent,
    List.count_eq_one_of_mem distinct member] at counted
  by_cases gone : hit.id ∈ Dispatcher.unanswered world moves
  · have some := List.count_pos_iff.mpr gone
    exact .inr ⟨by omega, gone⟩
  · rw [List.count_eq_zero_of_not_mem gone] at counted
    exact .inl counted

/-- The answer to the latest request that came back is the one that was taken up last. -/
private theorem applied_of_received (bound : issued.length < UInt64.size) {hit : Hit}
    (latest : issued.getLast? = some hit) (came : hit.id ∈ received.map Answer.id) :
    ∃ ending answer, progressOf (world.agent (issued.length - 1)) hit.text
        (Dispatcher.heard world moves (issued.length - 1)) = .ended ending ∧
      Answer.ofEnding? hit.id (world.elapsed (issued.length - 1)) ending = some answer ∧
      applied.getLast? = some answer := by
  have latestId := getLast?_map_id latest
  obtain ⟨answer, member, last, same⟩ := waiting.settled hit.id latestId came
  have given : answer ∈ (Dispatcher.closings world moves).filterMap Closing.answer? := by
    rw [routed.answers]
    exact List.mem_append_left _ member
  obtain ⟨closing, closed, told⟩ := List.mem_filterMap.mp given
  have own : closing.id = hit.id := by
    rw [← same]
    exact ((Dispatcher.ledger world moves).id_of_answer closed told).symm
  obtain ⟨ending, ends, made⟩ := closing_of_latest routed waiting bound latest closed own
  exact ⟨ending, answer, ends, made.symm.trans told, last⟩

end Latest

/-- The final replies that the request of a number got. -/
def Circuit.script (world : Surroundings) (circuit : Circuit) (happenings : List Happening)
    (number : Nat) : List Reply :=
  (Dispatcher.heard world (circuit.moves world happenings) number).filter Reply.isFinal

/-- The request that is sent next crashes when it is built. -/
def Circuit.CrashesNext (world : Surroundings) (circuit : Circuit) (before : List Happening) :
    Prop :=
  prepare (world.agent (before.countP Happening.isSend)).toTools
    (circuit.run world before).state.draft.text = .error .crash

/-- The latest request wins, and no answer is lost. Ids increase; the console is loading exactly
while it waits for an answer; that is the answer to the latest request, which is in one place on its
way unless it has crashed; any other answer changes nothing. Once nothing is under way, the result in
view is that of the latest request, for the draft at the time it was sent and the replies it got, or
the message of its failure. Only if that request has crashed the console goes on waiting. -/
theorem latest_request_wins (world : Surroundings) (text : String) (happenings : List Happening)
    (few : happenings.countP Happening.isSend < UInt64.size - 1) :
    let start := Circuit.ofDraftText text
    let circuit := start.run world happenings
    let ids := (start.issued world happenings).map Hit.id
    ids.Pairwise (· < ·) ∧
    (circuit.state.isLoading = true ↔ circuit.state.pendingId.isSome = true) ∧
    (∀ id, circuit.state.pendingId = some id → ids.getLast? = some id ∧
      (circuit.underWay.count id = 1 ∨
        circuit.underWay.count id = 0 ∧
          ∃ before, Circuit.LastSend happenings before ∧ start.CrashesNext world before)) ∧
    (∀ answer, ids.getLast? ≠ some answer.id →
      circuit.state.receive answer = circuit.state) ∧
    (circuit.underWay = [] → 0 < happenings.countP Happening.isSend →
      ∃ before, Circuit.LastSend happenings before ∧
        let number := before.countP Happening.isSend
        let sender := (start.run world before).state
        let alone :=
          Exchange.hit (world.agent number) sender.draft.text (start.script world happenings number)
        (start.CrashesNext world before ∧ circuit.state.isLoading = true) ∨
        circuit.state.isLoading = false ∧
        ∃ earlier later, happenings = earlier ++ .receive :: later ∧
          circuit.state.elapsed = some (world.elapsed number) ∧
          ((∃ report, alone.outcome = .ended (.report report) ∧
            LastApplied world start earlier later
              (.completed sender.nextId report (world.elapsed number)) ∧
            circuit.state.view.lines = report.toLines ∧
            ((∀ happening ∈ later, happening.isCopy = false) → circuit.state.error = none)) ∨
          ∃ failure, alone.outcome = .ended (.failure failure) ∧
            LastApplied world start earlier later
              (.failed sender.nextId failure.message (world.elapsed number)) ∧
            circuit.state.view.lines = [] ∧
            ((∀ happening ∈ later, happening.isCopy = false) →
              circuit.state.error = some failure.message))) := by
  intro start circuit ids
  have routed : Routed world circuit _ _ _ := Circuit.routed world text happenings
  have waiting : Waiting circuit.state _ _ _ := Circuit.waiting world text happenings few
  have length := Circuit.length_issued world start happenings
  have bound : (start.issued world happenings).length < UInt64.size := by omega
  have increasing : ids.Pairwise (· < ·) := by
    have idsEq : ids = _ := waiting.ids
    rw [idsEq]
    exact pairwise_requestId bound
  have crash : ∀ before hit, Circuit.LastSend happenings before →
      hit = (start.run world before).state.nextHit →
      (start.issued world happenings).getLast? = some hit →
      hit.id ∈ Dispatcher.unanswered world (start.moves world happenings) →
      start.CrashesNext world before := by
    rintro before hit last rfl latest gone
    have crashed := crash_of_unanswered routed waiting bound latest gone
    rwa [length, last.countP_isSend] at crashed
  refine ⟨increasing, ?_, ?_, ?_, ?_⟩
  · rw [waiting.loading]
  · intro id pending
    obtain ⟨latestId, absent⟩ := (waiting.pending id).mp pending
    refine ⟨latestId, ?_⟩
    rw [List.getLast?_map] at latestId
    obtain ⟨hit, latest, rfl⟩ := Option.map_eq_some_iff.mp latestId
    refine (count_underWay routed (increasing.imp UInt64.ne_of_lt) latest absent).imp_right
      fun ⟨nowhere, gone⟩ => ⟨nowhere, ?_⟩
    obtain ⟨before, last, same⟩ := Circuit.exists_lastSend world start happenings latest
    exact ⟨before, last, crash before hit last same latest gone⟩
  · intro answer other
    refine if_neg fun pending => ?_
    exact other ((waiting.pending answer.id).mp pending).1
  · intro quiet sent
    obtain ⟨hit, latest⟩ : ∃ hit, (start.issued world happenings).getLast? = some hit := by
      rw [← Option.isSome_iff_exists, List.getLast?_isSome, ← List.length_pos_iff, length]
      exact sent
    obtain ⟨before, last, same⟩ := Circuit.exists_lastSend world start happenings latest
    refine ⟨before, last, ?_⟩
    rcases latest_cases waiting latest with ⟨came, settled⟩ | ⟨absent, pending⟩
    · refine .inr ⟨by rw [waiting.loading, settled]; rfl, ?_⟩
      obtain ⟨ending, answer, ends, told, lastAnswer⟩ :=
        applied_of_received routed waiting bound latest came
      obtain ⟨earlier, later, received, applied, shown⟩ :=
        Circuit.exists_lastApplied world start happenings lastAnswer
      rw [length, last.countP_isSend] at ends told
      have alone := Exchange.hit_of_progressOf ends
      subst same
      refine ⟨earlier, later, received, ?_⟩
      rcases Answer.ofEnding?_eq_some_iff.mp told with ⟨report, rfl, rfl⟩ | ⟨failure, rfl, rfl⟩
      · exact ⟨shown.elapsed, .inl ⟨report, alone, applied, shown.lines, shown.message⟩⟩
      · exact ⟨shown.elapsed, .inr ⟨failure, alone, applied, shown.lines, shown.message⟩⟩
    · refine .inl ⟨?_, by rw [waiting.loading, pending]; rfl⟩
      rcases count_underWay routed (increasing.imp UInt64.ne_of_lt) latest absent with
        once | ⟨-, gone⟩
      · rw [quiet] at once
        cases once
      · exact crash before hit last same latest gone

/-- The second of two requests is answered first, and its answer stays. -/
theorem latest_request_wins_overtaking :
    let world : Surroundings := {
      agent := fun _ => .standard fun _ _ => none
      elapsed := fun number => .ofNat number }
    let found (body : Text.Bytes) : Reply := .response {
      status := { code := 200, three_digits := by decide }
      headers := .empty
      body := .whole body }
    let happenings : List Happening := [
      .event .send .working, .event .send .working, .take, .take, .start 0, .start 1,
      .reply 1 (found [0x32]), .receive, .reply 0 (found [0x31]), .receive]
    let start := Circuit.ofDraftText "GET \"http://a/\""
    let circuit := start.run world happenings
    happenings.countP Happening.isSend < UInt64.size - 1 ∧ circuit.underWay = [] ∧
      circuit.state.view.lines = ["GET http://a/", "", "200 OK", "", "2"] ∧
      ∃ before earlier later report, Circuit.LastSend happenings before ∧
        LastApplied world start earlier later (.completed (start.run world before).state.nextId report
          (world.elapsed (before.countP Happening.isSend))) ∧
        circuit.state.view.lines = report.toLines := by
  intro world found happenings start circuit
  have reached : circuit = (Circuit.ofDraftText "GET \"http://a/\"").run world happenings := rfl
  have few : happenings.countP Happening.isSend < UInt64.size - 1 := by decide
  have quiet : circuit.underWay = [] := by decide +kernel
  have lines : circuit.state.view.lines = ["GET http://a/", "", "200 OK", "", "2"] := by
    decide +kernel
  refine ⟨few, quiet, lines, ?_⟩
  obtain ⟨-, -, -, -, settled⟩ := latest_request_wins world "GET \"http://a/\"" happenings few
  rw [← reached] at settled
  obtain ⟨before, last, ⟨-, loading⟩ | ⟨-, earlier, later, -, -,
    ⟨report, -, applied, shown, -⟩ | ⟨failure, -, -, empty, -⟩⟩⟩ := settled quiet (by decide)
  · have done : circuit.state.isLoading = false := by decide +kernel
    exact Bool.noConfusion (loading.symm.trans done)
  · exact ⟨before, earlier, later, report, last, applied, shown⟩
  · exact absurd (lines.symm.trans empty) (List.cons_ne_nil _ _)

theorem waits_of_crash {world : Surroundings} {text : String}
    (crashes : prepare (world.agent 0).toTools text = .error .crash) :
    let circuit := (Circuit.ofDraftText text).run world [.event .send .working, .take, .start 0]
    circuit.underWay = [] ∧ circuit.state.isLoading = true ∧ circuit.state.pendingId = some 1 := by
  intro circuit
  have taken : (Circuit.ofDraftText text).run world [.event .send .working, .take] = {
      state := (State.ofDraftText text).send.1
      dispatcher := { taken := 1, errands := [{ number := 0, id := 1, stage := .fresh text }] } } :=
    rfl
  have reached : circuit = {
      state := (State.ofDraftText text).send.1
      dispatcher := { taken := 1, errands := [] } } := by
    have last : circuit = ((Circuit.ofDraftText text).run world [.event .send .working, .take]).step
        world (.start 0) := rfl
    rw [last, taken]
    simp [Circuit.step, Circuit.move, Dispatcher.step, Dispatcher.errand?,
      Exchange.launch_of_unprepared crashes, Dispatcher.settle, Dispatcher.drop,
      Exchange.Occurrence.answer?, Exchange.Halt.ending, Answer.ofEnding?]
  rw [reached]
  exact ⟨rfl, rfl, rfl⟩

/-- With a draft of too many headers the console goes on loading when nothing is under way. -/
theorem crowded_draft_keeps_loading :
    let world : Surroundings := {
      agent := fun _ => .standard fun _ _ => none
      elapsed := fun _ => 5 }
    let happenings : List Happening := [.event .send .working, .take, .start 0]
    let circuit := (Circuit.ofDraftText Exchange.crowdedRequest.written).run world happenings
    happenings.countP Happening.isSend < UInt64.size - 1 ∧ circuit.underWay = [] ∧
      circuit.state.isLoading = true ∧ circuit.state.pendingId = some 1 := by
  intro world happenings circuit
  have crashes : prepare (world.agent 0).toTools Exchange.crowdedRequest.written = .error .crash :=
    Exchange.prepare_crowdedRequest
  exact ⟨by decide, waits_of_crash crashes⟩

end HttpConsole.Console
