import HttpConsole.Proofs.Exchange.Certificates
import HttpConsole.Proofs.Exchange.Crowded

/-! How a dispatcher keeps requests apart. What is seen of a request depends on the commands, on its
own text and on its own replies, however the others get on. While the dispatcher runs, a request
waits for one reply more than it got, or it has its answer, unless it has crashed. -/

set_option autoImplicit false

namespace HttpConsole

/-- What a machine notes stays the same without the inputs that change nothing of what it depends
on. -/
theorem noted_filter {State Input Note : Type} {step : State → Input → State}
    {note : State → Input → List Note} {relevant : Input → Bool} {Alike : State → State → Prop}
    (idle : ∀ {left right input}, Alike left right → relevant input = false →
      Alike (step left input) right ∧ note left input = [])
    (together : ∀ {left right input}, Alike left right → relevant input = true →
      Alike (step left input) (step right input) ∧ note left input = note right input)
    {left right : State} (alike : Alike left right) (inputs : List Input) :
    noted step note left inputs = noted step note right (inputs.filter relevant) := by
  induction inputs generalizing left right with
  | nil => rfl
  | cons input rest ih =>
      cases counts : relevant input with
      | false =>
          obtain ⟨next, nothing⟩ := idle alike counts
          rw [List.filter_cons_of_neg (by simp [counts]), noted, nothing]
          exact ih next
      | true =>
          obtain ⟨next, same⟩ := together alike counts
          rw [List.filter_cons_of_pos counts, noted, noted, same, ih next]

theorem map_noted {State Input Note Other : Type} {step : State → Input → State}
    {note : State → Input → List Note} {change : List Note → List Other} (nil : change [] = [])
    (append : ∀ front back, change (front ++ back) = change front ++ change back)
    (state : State) (inputs : List Input) : change (noted step note state inputs) =
      noted step (fun state input => change (note state input)) state inputs := by
  induction inputs generalizing state with
  | nil => exact nil
  | cons input rest ih => rw [noted, append, ih, noted]

end HttpConsole

namespace HttpConsole.Exchange

def Occurrence.number : Occurrence → Nat
  | .sent number _ => number
  | .closed closing => closing.number

/-- Whether a move is one of the dispatcher, or one of the request of a number. -/
def Move.concerns (number : Nat) (move : Move) : Bool :=
  move.number?.all (· == number)

def Move.hit? : Move → Option Hit
  | .take command => command.hit?
  | _ => none

/-- The requests that are given before the first command to stop. -/
def hitsBeforeShutdown (moves : List Move) : List Hit :=
  (moves.takeWhile (· != .take .shutdown)).filterMap Move.hit?

theorem hitsBeforeShutdown_cons {move : Move} (goes : move ≠ .take .shutdown)
    (rest : List Move) :
    hitsBeforeShutdown (move :: rest) = move.hit?.toList ++ hitsBeforeShutdown rest := by
  have kept : (move != .take .shutdown) = true := bne_iff_ne.mpr goes
  rw [hitsBeforeShutdown, List.takeWhile_cons, kept, if_pos rfl, List.filterMap_cons]
  cases move.hit? <;> rfl

/-- How many replies a request waits for. -/
def Stage.awaited : Stage → Nat
  | .fresh _ => 0
  | .flying _ => 1

def Progress.awaited : Progress → Nat
  | .waiting _ => 1
  | .ended _ => 0

/-- The reply that a request takes by a move of its own. -/
def Stage.hears : Stage → Move → List Reply
  | .flying _, .reply _ reply => [reply]
  | _, _ => []

/-- What is left of a request that has got as far as a progress says. -/
def Errand.reach (errand : Errand) : Progress → Option Errand
  | .waiting flight => some { errand with stage := .flying flight }
  | .ended _ => none

section Sent

variable {agent : Agent}

private theorem Flight.length_sent_proceed (flight : Flight) :
    (flight.proceed agent).2.length = (flight.proceed agent).1.awaited := by
  unfold proceed
  cases agent.turn flight with
  | deliver response => rfl
  | fail error => rfl
  | send request =>
      dsimp only
      cases agent.connect flight request.url <;> rfl

private theorem length_sent_launch (text : String) :
    (launch agent text).2.length = (launch agent text).1.awaited := by
  cases prepared : prepare agent.toTools text with
  | error halt =>
      rw [launch_of_unprepared prepared]
      rfl
  | ok outgoing =>
      rw [launch_of_prepared prepared]
      exact Flight.length_sent_proceed _

/-- A final reply ends the wait for it, and each request that is sent begins another. -/
private theorem Flight.length_sent_receive (flight : Flight) (reply : Reply) :
    (flight.receive agent reply).2.length + 1 =
      ([reply].filter Reply.isFinal).length + (flight.receive agent reply).1.awaited := by
  cases final : reply.isFinal with
  | false =>
      rw [receive, final, List.filter_cons_of_neg (by simp [final])]
      rfl
  | true =>
      rw [receive, if_pos final, length_sent_proceed, List.filter_cons_of_pos final, Nat.add_comm]
      rfl

theorem Stage.length_sent_proceed {stage : Stage} {move : Move} {progress : Progress}
    {sent : List WireRequest} (proceeds : stage.proceed? agent move = some (progress, sent)) :
    sent.length + stage.awaited =
      ((stage.hears move).filter Reply.isFinal).length + progress.awaited := by
  cases stage with
  | fresh text =>
      cases move with
      | start number =>
          have launched : launch agent text = (progress, sent) := Option.some.inj proceeds
          have counted := @length_sent_launch agent text
          rw [launched] at counted
          exact counted.trans (Nat.zero_add _).symm
      | take command => cases proceeds
      | reply number reply => cases proceeds
  | flying flight =>
      cases move with
      | reply number reply =>
          have received : flight.receive agent reply = (progress, sent) :=
            Option.some.inj proceeds
          have counted := @Flight.length_sent_receive agent flight reply
          rw [received] at counted
          exact counted
      | take command => cases proceeds
      | start number => cases proceeds

theorem Stage.hears_of_stuck {stage : Stage} {move : Move}
    (stuck : stage.proceed? agent move = none) : stage.hears move = [] := by
  cases stage with
  | fresh text => cases move <;> rfl
  | flying flight =>
      cases move with
      | reply number reply => cases stuck
      | take command => rfl
      | start number => rfl

end Sent

namespace Dispatcher

/-- All that is seen of a dispatcher. -/
def occurrences (world : Surroundings) (moves : List Move) : List Occurrence :=
  (Dispatcher.run {} world moves).2

/-- All that is seen of the request of a number. -/
def about (world : Surroundings) (moves : List Move) (number : Nat) : List Occurrence :=
  (occurrences world moves).filter (·.number == number)

def answersTo (world : Surroundings) (moves : List Move) (number : Nat) : List Answer :=
  (about world moves number).filterMap Occurrence.answer?

def repliesTo (world : Surroundings) (moves : List Move) (number : Nat) : List Reply :=
  (heard world moves number).filter Reply.isFinal

/-- What is seen of the request of a number by a move. -/
def aboutOf (world : Surroundings) (number : Nat) (dispatcher : Dispatcher) (move : Move) :
    List Occurrence :=
  (dispatcher.step world move).2.filter (·.number == number)

theorem run_eq_noted (world : Surroundings) (dispatcher : Dispatcher) (moves : List Move) :
    (dispatcher.run world moves).2 =
      noted (next world) (fun dispatcher move => (dispatcher.step world move).2) dispatcher
        moves := by
  induction moves generalizing dispatcher with
  | nil => rfl
  | cons move rest ih =>
      simp only [run, ih]
      rfl

theorem sentOf_eq (world : Surroundings) (number : Nat) (dispatcher : Dispatcher) (move : Move) :
    sentOf world number dispatcher move =
      (aboutOf world number dispatcher move).filterMap Occurrence.sent? := by
  rw [sentOf, aboutOf, List.filterMap_filter]
  refine List.filterMap_congr fun occurrence _ => ?_
  cases occurrence with
  | sent other request => simp [Occurrence.sentBy?, Occurrence.number, Occurrence.sent?]
  | closed closing => simp [Occurrence.sentBy?, Occurrence.sent?]

theorem closings_eq (world : Surroundings) (moves : List Move) :
    closings world moves = (occurrences world moves).filterMap Occurrence.closing? := by
  rw [occurrences, run_eq_noted, map_noted List.filterMap_nil fun _ _ => List.filterMap_append]
  rfl

theorem about_eq_noted (world : Surroundings) (moves : List Move) (number : Nat) :
    about world moves number = noted (next world) (aboutOf world number) {} moves := by
  rw [about, occurrences, run_eq_noted, map_noted List.filter_nil List.filter_append]
  rfl

section One

variable {world : Surroundings} {dispatcher : Dispatcher} {number : Nat} {move : Move}

theorem errand?_setStage (dispatcher : Dispatcher) (changed : Nat) (stage : Stage)
    (number : Nat) : (dispatcher.setStage changed stage).errand? number =
      (dispatcher.errand? number).map fun errand =>
        if number = changed then { errand with stage := stage } else errand := by
  simp only [setStage, errand?, List.find?_map]
  have same : ((fun errand : Errand => errand.number == number) ∘ fun errand =>
      if errand.number = changed then { errand with stage := stage } else errand) =
      fun errand => errand.number == number := by
    funext errand
    simp only [Function.comp_apply]
    split <;> rfl
  rw [same]
  refine Option.map_congr fun errand found => ?_
  have own : errand.number = number := by simpa using List.find?_some found
  rw [own]

theorem errand?_drop (dispatcher : Dispatcher) (dropped number : Nat) :
    (dispatcher.drop dropped).errand? number =
      if number = dropped then none else dispatcher.errand? number := by
  simp only [drop, errand?, List.find?_filter]
  split
  · next same =>
      subst same
      simp
  · next different =>
      congr 1
      funext errand
      by_cases own : errand.number = number <;> simp [own, different]

theorem errand?_settle {errand : Errand} (found : dispatcher.errand? errand.number = some errand)
    (progress : Progress) (sent : List WireRequest) (number : Nat) :
    (dispatcher.settle world errand progress sent).1.errand? number =
      if number = errand.number then errand.reach progress else dispatcher.errand? number := by
  cases progress with
  | waiting flight =>
      rw [settle, errand?_setStage]
      by_cases same : number = errand.number
      · rw [same, found, if_pos rfl, Option.map_some, if_pos rfl]
        rfl
      · simp only [same, if_false, Option.map_id']
  | ended ending => exact errand?_drop ..

theorem taken_settle (world : Surroundings) (dispatcher : Dispatcher) (errand : Errand)
    (progress : Progress) (sent : List WireRequest) :
    (dispatcher.settle world errand progress sent).1.taken = dispatcher.taken := by
  cases progress <;> rfl

theorem about_settle (world : Surroundings) (dispatcher : Dispatcher) (errand : Errand)
    (progress : Progress) (sent : List WireRequest) (number : Nat) :
    (dispatcher.settle world errand progress sent).2.filter (·.number == number) =
      if errand.number = number then (dispatcher.settle world errand progress sent).2 else [] := by
  have own : ∀ occurrence ∈ (dispatcher.settle world errand progress sent).2,
      occurrence.number = errand.number := by
    intro occurrence present
    cases progress with
    | waiting flight =>
        obtain ⟨request, -, rfl⟩ := List.mem_map.mp present
        rfl
    | ended ending =>
        rcases List.mem_append.mp present with early | last
        · obtain ⟨request, -, rfl⟩ := List.mem_map.mp early
          rfl
        · rw [List.mem_singleton.mp last]
          rfl
  by_cases same : errand.number = number
  · rw [if_pos same, List.filter_eq_self]
    exact fun occurrence present => by simp [own occurrence present, same]
  · rw [if_neg same, List.filter_eq_nil_iff]
    exact fun occurrence present => by simp [own occurrence present, same]

theorem errand?_take (dispatcher : Dispatcher) (command : Command) (number : Nat) :
    (dispatcher.take command).errand? number =
      if dispatcher.running then
        command.hit?.bind fun hit => (dispatcher.errand? number).or
          (if dispatcher.taken = number then
            some { number := dispatcher.taken, id := hit.id, stage := .fresh hit.text }
          else none)
      else dispatcher.errand? number := by
  unfold take
  split
  · cases command with
    | shutdown => rfl
    | hit id text =>
        simp only [errand?, List.find?_append, Command.hit?, Option.bind_some]
        congr 1
        by_cases same : dispatcher.taken = number <;> simp [same]
  · rfl

/-- A move of a request changes nothing, or the request gets further by it. -/
theorem step_cases (world : Surroundings) (dispatcher : Dispatcher)
    (makes : move.number? = some number) :
    (dispatcher.step world move = (dispatcher, []) ∧
      ∀ errand, dispatcher.errand? number = some errand →
        errand.stage.proceed? (world.agent number) move = none) ∨
    ∃ errand progress sent, errand.number = number ∧ dispatcher.errand? number = some errand ∧
      errand.stage.proceed? (world.agent number) move = some (progress, sent) ∧
      dispatcher.step world move = dispatcher.settle world errand progress sent := by
  cases found : dispatcher.errand? number with
  | some errand =>
      rw [step_of_number makes found]
      cases proceeds : errand.stage.proceed? (world.agent number) move with
      | none => exact .inl ⟨rfl, fun other same => by rwa [← Option.some.inj same]⟩
      | some course =>
          exact .inr ⟨errand, course.1, course.2, (errand?_eq_some found).2, rfl, proceeds, rfl⟩
  | none =>
      refine .inl ⟨?_, fun errand impossible => nomatch impossible⟩
      cases move with
      | take command => cases makes
      | start other =>
          cases makes
          simp only [step, found]
      | reply other reply =>
          cases makes
          simp only [step, found]

theorem replyOf_own {errand : Errand} (makes : move.number? = some number)
    (found : dispatcher.errand? number = some errand) :
    dispatcher.replyOf number move = errand.stage.hears move := by
  cases move with
  | take command => cases makes
  | start other =>
      cases errand.stage <;> rfl
  | reply other reply =>
      cases makes
      simp only [replyOf, found, Option.any_some, true_and]
      cases errand.stage <;> rfl

theorem replyOf_of_none (found : dispatcher.errand? number = none) :
    dispatcher.replyOf number move = [] := by
  cases move with
  | take command => rfl
  | start other => rfl
  | reply other reply => simp [replyOf, found]

end One

/-- What the request of a number can tell of a dispatcher is the same for two dispatchers. -/
structure AgreeOn (number : Nat) (left right : Dispatcher) : Prop where
  running : left.running = right.running
  taken : left.taken = right.taken
  errand : left.errand? number = right.errand? number

namespace AgreeOn

variable (world : Surroundings) {number : Nat} {left right : Dispatcher} {move : Move}

private theorem refl (number : Nat) (dispatcher : Dispatcher) :
    AgreeOn number dispatcher dispatcher :=
  ⟨rfl, rfl, rfl⟩

/-- A move of another request is not noticed. -/
private theorem other (agree : AgreeOn number left right) (apart : move.concerns number = false) :
    AgreeOn number (left.next world move) right ∧ aboutOf world number left move = [] ∧
      left.replyOf number move = [] := by
  obtain ⟨mover, makes, different⟩ : ∃ mover, move.number? = some mover ∧ mover ≠ number := by
    simpa [Move.concerns, Option.all_eq_false] using apart
  have deaf : left.replyOf number move = [] := by
    cases move with
    | take command => rfl
    | start other => rfl
    | reply other reply =>
        cases makes
        exact if_neg fun both => different both.1
  rcases step_cases world left makes with ⟨still, -⟩ |
    ⟨errand, progress, sent, rfl, found, -, settles⟩
  · rw [next, aboutOf, still]
    exact ⟨agree, rfl, deaf⟩
  · rw [next, aboutOf, settles, about_settle, if_neg different]
    refine ⟨⟨(running_settle ..).trans agree.running, (taken_settle ..).trans agree.taken, ?_⟩,
      rfl, deaf⟩
    rw [errand?_settle found, if_neg (Ne.symm different)]
    exact agree.errand

private theorem take (agree : AgreeOn number left right) (command : Command) :
    AgreeOn number (left.take command) (right.take command) := by
  constructor
  case running =>
    have same := agree.running
    cases command <;> simp only [Dispatcher.take, same] <;> split <;> simp [same]
  case taken =>
    have running := agree.running
    have same := agree.taken
    cases command <;> simp only [Dispatcher.take, running] <;> split <;> simp [same]
  case errand =>
    rw [errand?_take, errand?_take, agree.running, agree.taken, agree.errand]

private theorem settle (agree : AgreeOn number left right) {errand : Errand}
    (own : errand.number = number) (found : left.errand? number = some errand)
    (progress : Progress) (sent : List WireRequest) :
    AgreeOn number (left.settle world errand progress sent).1
        (right.settle world errand progress sent).1 ∧
      (left.settle world errand progress sent).2 = (right.settle world errand progress sent).2 := by
  subst own
  refine ⟨⟨?_, ?_, ?_⟩, by cases progress <;> rfl⟩
  · rw [running_settle, running_settle, agree.running]
  · rw [taken_settle, taken_settle, agree.taken]
  · rw [errand?_settle found, errand?_settle (agree.errand ▸ found), if_pos rfl, if_pos rfl]

/-- A move of the dispatcher or of the request itself is the same for both. -/
private theorem own (agree : AgreeOn number left right) (concerned : move.concerns number = true) :
    AgreeOn number (left.next world move) (right.next world move) ∧
      aboutOf world number left move = aboutOf world number right move ∧
      left.replyOf number move = right.replyOf number move := by
  cases makes : move.number? with
  | none =>
      cases move with
      | take command => exact ⟨agree.take command, rfl, rfl⟩
      | start other => cases makes
      | reply other reply => cases makes
  | some mover =>
      obtain rfl : mover = number := by simpa [Move.concerns, makes] using concerned
      rw [next, next, aboutOf, aboutOf]
      rcases step_cases world left makes with ⟨still, stuck⟩ |
        ⟨errand, progress, sent, rfl, found, proceeds, settles⟩
      · rcases step_cases world right makes with ⟨rightStill, -⟩ |
          ⟨errand, progress, sent, -, found, proceeds, -⟩
        · rw [still, rightStill]
          refine ⟨agree, rfl, ?_⟩
          cases found : left.errand? mover with
          | none => rw [replyOf_of_none found, replyOf_of_none (agree.errand ▸ found)]
          | some errand => rw [replyOf_own makes found, replyOf_own makes (agree.errand ▸ found)]
        · rw [stuck errand (agree.errand.trans found)] at proceeds
          cases proceeds
      · have rightFound := agree.errand ▸ found
        have rightSettles : right.step world move = right.settle world errand progress sent := by
          rw [step_of_number makes rightFound, proceeds]
        obtain ⟨settled, same⟩ := agree.settle world rfl found progress sent
        rw [settles, rightSettles, same, replyOf_own makes found, replyOf_own makes rightFound]
        exact ⟨settled, rfl, rfl⟩

end AgreeOn

theorem about_filter (world : Surroundings) (moves : List Move) (number : Nat) :
    about world (moves.filter (Move.concerns number)) number = about world moves number := by
  rw [about_eq_noted, about_eq_noted]
  refine (noted_filter ?_ ?_ (AgreeOn.refl number {}) moves).symm
  · intro left right move agree apart
    obtain ⟨next, nothing, -⟩ := agree.other world apart
    exact ⟨next, nothing⟩
  · intro left right move agree concerned
    obtain ⟨next, same, -⟩ := agree.own world concerned
    exact ⟨next, same⟩

theorem heard_filter (world : Surroundings) (moves : List Move) (number : Nat) :
    heard world (moves.filter (Move.concerns number)) number = heard world moves number := by
  unfold heard
  refine (noted_filter ?_ ?_ (AgreeOn.refl number {}) moves).symm
  · intro left right move agree apart
    obtain ⟨next, -, deaf⟩ := agree.other world apart
    exact ⟨next, deaf⟩
  · intro left right move agree concerned
    obtain ⟨next, -, same⟩ := agree.own world concerned
    exact ⟨next, same⟩

/-- A dispatcher that has stopped with nothing left to do. -/
def IsStopped (dispatcher : Dispatcher) : Prop :=
  dispatcher.running = false ∧ dispatcher.errands = []

theorem step_of_isStopped (world : Surroundings) {dispatcher : Dispatcher}
    (stopped : dispatcher.IsStopped) (move : Move) :
    dispatcher.step world move = (dispatcher, []) := by
  have nobody (number : Nat) : dispatcher.errand? number = none := by
    rw [errand?, stopped.2, List.find?_nil]
  cases move with
  | take command => simp [step, Dispatcher.take, stopped.1]
  | start number => simp [step, nobody]
  | reply number reply => simp [step, nobody]

theorem isStopped_after (world : Surroundings) (moves : List Move)
    (halted : (after world moves).running = false) : (after world moves).IsStopped := by
  refine ⟨halted, ?_⟩
  induction moves using List.reverseRecOn with
  | nil => rfl
  | append_singleton earlier move ih =>
      rw [after_concat] at halted ⊢
      cases running : (after world earlier).running with
      | false =>
          rw [next, step_of_isStopped world ⟨running, ih running⟩]
          exact ih running
      | true =>
          cases move with
          | start number =>
              rw [running_start, running] at halted
              cases halted
          | reply number reply =>
              rw [running_reply, running] at halted
              cases halted
          | take command =>
              simp only [next, step, Dispatcher.take, running, if_true] at halted ⊢
              cases command with
              | shutdown => rfl
              | hit id text => simp at halted

theorem running_after_iff (world : Surroundings) (moves : List Move) :
    (after world moves).running = true ↔ .take .shutdown ∉ moves := by
  induction moves using List.reverseRecOn with
  | nil => simp [after]
  | append_singleton earlier move ih =>
      rw [after_concat, List.mem_append, not_or, ← ih, List.mem_singleton]
      cases move with
      | start number => simp [running_start]
      | reply number reply => simp [running_reply]
      | take command =>
          cases running : (after world earlier).running <;>
            cases command <;> simp [next, step, Dispatcher.take, running]

theorem noted_hitOf (world : Surroundings) (dispatcher : Dispatcher) (moves : List Move) :
    noted (next world) hitOf dispatcher moves =
      if dispatcher.running then hitsBeforeShutdown moves else [] := by
  induction moves generalizing dispatcher with
  | nil => simp [noted, hitsBeforeShutdown]
  | cons move rest ih =>
      rw [noted, ih]
      cases move with
      | start number =>
          rw [running_start, hitsBeforeShutdown_cons (by simp)]
          rfl
      | reply number reply =>
          rw [running_reply, hitsBeforeShutdown_cons (by simp)]
          rfl
      | take command =>
          cases running : dispatcher.running <;> cases command <;>
            simp [hitOf, next, step, Dispatcher.take, running, hitsBeforeShutdown, Move.hit?,
              Command.hit?]

theorem hits_eq (world : Surroundings) (moves : List Move) :
    hits world moves = hitsBeforeShutdown moves :=
  noted_hitOf world {} moves

theorem occurrences_of_shutdown (world : Surroundings) (earlier later : List Move) :
    occurrences world (earlier ++ .take .shutdown :: later) = occurrences world earlier := by
  have stopped : ((after world earlier).next world (.take .shutdown)).IsStopped := by
    cases running : (after world earlier).running with
    | false =>
        have before := isStopped_after world earlier running
        rwa [next, step_of_isStopped world before]
    | true => simp [next, step, Dispatcher.take, running, IsStopped]
  have quiet (dispatcher : Dispatcher) (rests : dispatcher.IsStopped) (moves : List Move) :
      noted (next world) (fun dispatcher move => (dispatcher.step world move).2) dispatcher
        moves = [] := by
    induction moves with
    | nil => rfl
    | cons move rest ih =>
        rw [noted, next, step_of_isStopped world rests]
        exact ih
  unfold occurrences
  rw [run_eq_noted, run_eq_noted]
  simp only [noted_append, noted]
  exact (congrArg _ (quiet _ stopped later)).trans (List.append_nil _)

section Waiting

variable {world : Surroundings} {dispatcher : Dispatcher} {number : Nat} {move : Move}

/-- How many replies the request of a number waits for. -/
def awaited (dispatcher : Dispatcher) (number : Nat) : Nat :=
  (dispatcher.errand? number).elim 0 (·.stage.awaited)

private theorem awaited_reach (errand : Errand) (progress : Progress) :
    (errand.reach progress).elim 0 (·.stage.awaited) = progress.awaited := by
  cases progress <;> rfl

private theorem awaited_take (command : Command)
    (running : (dispatcher.take command).running = true) :
    (dispatcher.take command).awaited number = dispatcher.awaited number := by
  unfold awaited
  rw [errand?_take]
  split
  · next runs =>
      cases command with
      | shutdown => simp [Dispatcher.take, runs] at running
      | hit id text =>
          simp only [Command.hit?, Option.bind_some]
          cases dispatcher.errand? number with
          | some errand => rfl
          | none =>
              -- A request that is taken has sent nothing yet.
              by_cases new : dispatcher.taken = number <;> simp [new, Stage.awaited]
  · rfl

/-- A move gives a request the replies that it waits for, or lets it send what waits for more. -/
private theorem length_sentOf (number : Nat)
    (running : (dispatcher.next world move).running = true) :
    (sentOf world number dispatcher move).length + dispatcher.awaited number =
      ((dispatcher.replyOf number move).filter Reply.isFinal).length +
        (dispatcher.next world move).awaited number := by
  cases concerned : move.concerns number with
  | false =>
      obtain ⟨agree, nothing, deaf⟩ :=
        (AgreeOn.refl number dispatcher).other world concerned
      rw [sentOf_eq, nothing, deaf, awaited, awaited, agree.errand]
      rfl
  | true =>
      cases makes : move.number? with
      | none =>
          cases move with
          | take command =>
              exact congrArg (0 + ·) (awaited_take command running).symm
          | start other => cases makes
          | reply other reply => cases makes
      | some mover =>
          obtain rfl : mover = number := by simpa [Move.concerns, makes] using concerned
          rcases step_cases world dispatcher makes with ⟨still, stuck⟩ |
            ⟨errand, progress, sent, rfl, found, proceeds, settles⟩
          · have deaf : dispatcher.replyOf mover move = [] := by
              cases found : dispatcher.errand? mover with
              | none => exact replyOf_of_none found
              | some errand =>
                  rw [replyOf_own makes found]
                  exact Stage.hears_of_stuck (stuck errand found)
            rw [sentOf, next, still, deaf]
            rfl
          · rw [sentOf, next, settles, sent_settle, if_pos rfl, replyOf_own makes found, awaited,
              awaited, found, errand?_settle found, if_pos rfl, awaited_reach]
            exact Stage.length_sent_proceed proceeds

/-- The request of a number is on its way or at its end. -/
def HasStarted (dispatcher : Dispatcher) (number : Nat) : Prop :=
  ∀ errand, dispatcher.errand? number = some errand → errand.stage.isFlying = true

private theorem hasStarted_settle {errand : Errand}
    (found : dispatcher.errand? errand.number = some errand) (progress : Progress)
    (sent : List WireRequest) :
    (dispatcher.settle world errand progress sent).1.HasStarted errand.number := by
  intro later present
  rw [errand?_settle found, if_pos rfl] at present
  cases progress with
  | waiting flight =>
      cases present
      rfl
  | ended ending => cases present

private theorem hasStarted_start (world : Surroundings) (dispatcher : Dispatcher)
    (number : Nat) : (dispatcher.next world (.start number)).HasStarted number := by
  have makes : (Move.start number).number? = some number := rfl
  rcases step_cases world dispatcher makes with ⟨still, stuck⟩ |
    ⟨errand, progress, sent, rfl, found, -, settles⟩
  · intro errand found
    rw [next, still] at found
    have stays := stuck errand found
    cases stage : errand.stage with
    | fresh text =>
        rw [stage] at stays
        cases stays
    | flying flight => rfl
  · rw [next, settles]
    exact hasStarted_settle found progress sent

private theorem HasStarted.next (started : dispatcher.HasStarted number)
    (taken : number < dispatcher.taken) : (dispatcher.next world move).HasStarted number := by
  cases makes : move.number? with
  | none =>
      cases move with
      | start other => cases makes
      | reply other reply => cases makes
      | take command =>
          intro errand found
          have found : (dispatcher.take command).errand? number = some errand := found
          simp only [errand?_take, Nat.ne_of_gt taken, if_false, Option.or_none] at found
          split at found
          · cases command with
            | shutdown => cases found
            | hit id text => exact started errand (by simpa [Command.hit?] using found)
          · exact started errand found
  | some mover =>
      rcases step_cases world dispatcher makes with ⟨still, -⟩ |
        ⟨errand, progress, sent, rfl, found, -, settles⟩
      · rwa [Dispatcher.next, still]
      · rw [Dispatcher.next, settles]
        by_cases same : number = errand.number
        · rw [same]
          exact hasStarted_settle found progress sent
        · intro later present
          rw [errand?_settle found, if_neg same] at present
          exact started later present

end Waiting

section Runs

variable (world : Surroundings) (moves : List Move) (number : Nat)

/-- While the dispatcher runs, what a request has sent is what it got final replies to and what it
still waits for. -/
theorem length_sent_eq_replies_add_awaited (running : (after world moves).running = true) :
    (sent world moves number).length =
      (repliesTo world moves number).length + (after world moves).awaited number := by
  induction moves using List.reverseRecOn with
  | nil => rfl
  | append_singleton earlier move ih =>
      have before : (after world earlier).running = true := by
        rw [running_after_iff] at running ⊢
        exact fun present => running (List.mem_append_left _ present)
      rw [after_concat] at running ⊢
      have step := length_sentOf number running
      have past := ih before
      simp only [repliesTo, sent_concat, heard_concat, List.filter_append,
        List.length_append] at past ⊢
      omega

theorem hasStarted_after (before between : List Move) {hit : Hit}
    (taken : (hits world before)[number]? = some hit) :
    (after world (before ++ .start number :: between)).HasStarted number := by
  rw [List.append_cons]
  induction between using List.reverseRecOn with
  | nil =>
      rw [List.append_nil, after_concat]
      exact hasStarted_start world (after world before) number
  | append_singleton earlier move ih =>
      rw [← List.append_assoc, after_concat]
      refine ih.next ?_
      rw [(ledger world _).taken, List.append_assoc]
      exact (List.getElem?_eq_some_iff.mp (getElem?_hits_append taken _)).1

theorem answersTo_eq : answersTo world moves number =
    ((closings world moves).filter (·.number == number)).filterMap Closing.answer? := by
  rw [answersTo, about, closings_eq, List.filterMap_filter, List.filter_filterMap,
    List.filterMap_filterMap]
  refine List.filterMap_congr fun occurrence _ => ?_
  cases occurrence with
  | sent other request => simp [Occurrence.answer?, Occurrence.closing?]
  | closed closing =>
      by_cases same : closing.number = number <;>
        simp [Occurrence.number, Occurrence.answer?, Occurrence.closing?, Option.filter, same]

theorem mem_closings_append {closing : Closing} (closed : closing ∈ closings world moves)
    (later : List Move) : closing ∈ closings world (moves ++ later) := by
  unfold closings at closed ⊢
  rw [noted_append]
  exact List.mem_append_left _ closed

/-- A request that is closed has the answer that it was closed with and no other. -/
theorem answersTo_of_closing {closing : Closing} (closed : closing ∈ closings world moves) :
    answersTo world moves closing.number = closing.answer?.toList := by
  have distinct : ((closings world moves).map Closing.number).Nodup :=
    (ledger world moves).distinct.of_append_right
  have once : ((closings world moves).filter (·.number == closing.number)).length ≤ 1 := by
    rw [← List.countP_eq_length_filter]
    have count := List.nodup_iff_count_le_one.mp distinct closing.number
    rwa [List.count, List.countP_map] at count
  have member : closing ∈ (closings world moves).filter (·.number == closing.number) :=
    List.mem_filter.mpr ⟨closed, beq_self_eq_true _⟩
  obtain ⟨only, same⟩ :=
    List.length_eq_one_iff.mp (Nat.le_antisymm once (List.length_pos_of_mem member))
  rw [same, List.mem_singleton] at member
  rw [answersTo_eq, same, ← member]
  cases given : closing.answer? <;> simp [given]

theorem exists_closing_of_answer {answer : Answer} (given : answer ∈ answersTo world moves number) :
    ∃ closing ∈ closings world moves, closing.number = number ∧ closing.answer? = some answer := by
  rw [answersTo_eq] at given
  obtain ⟨closing, member, answers⟩ := List.mem_filterMap.mp given
  obtain ⟨closed, own⟩ := List.mem_filter.mp member
  exact ⟨closing, closed, beq_iff_eq.mp own, answers⟩

theorem length_answersTo_le : (answersTo world moves number).length ≤ 1 := by
  cases answers : answersTo world moves number with
  | nil => exact Nat.zero_le _
  | cons answer others =>
      obtain ⟨closing, closed, rfl, given⟩ :=
        exists_closing_of_answer world moves number (answers ▸ List.mem_cons_self)
      rw [← answers, answersTo_of_closing world moves closed, given]
      exact Nat.le_refl 1

/-- A closed request did what it does alone with its own replies. -/
theorem hit_of_closing {closing : Closing} (closed : closing ∈ closings world moves) :
    ∃ hit ending, (hitsBeforeShutdown moves)[closing.number]? = some hit ∧
      (Exchange.hit (world.agent closing.number) hit.text
        (repliesTo world moves closing.number)).outcome = .ended ending ∧
      (ending = .crash →
        prepare (world.agent closing.number).toTools hit.text = .error .crash) ∧
      closing.answer? = Answer.ofEnding? hit.id (world.elapsed closing.number) ending := by
  obtain ⟨hit, ending, taken, ends, made⟩ := (ledger world moves).resulting closing closed
  rw [hits_eq] at taken
  refine ⟨hit, ending, taken, hit_of_progressOf ends, fun crashed => ?_, ?_⟩
  · rw [crashed] at ends
    exact prepare_of_crash ends
  · rw [made]
    rfl

/-- A request that has started and waits for no reply is closed. -/
theorem exists_closing (running : (after world moves).running = true)
    (taken : number < (hits world moves).length)
    (started : (after world moves).HasStarted number)
    (heard : (sent world moves number).length = (repliesTo world moves number).length) :
    ∃ closing ∈ closings world moves, closing.number = number := by
  have balance := length_sent_eq_replies_add_awaited world moves number running
  have gone : (after world moves).errand? number = none := by
    cases found : (after world moves).errand? number with
    | none => rfl
    | some errand =>
        have flying := started errand found
        cases stage : errand.stage with
        | fresh text => simp [stage, Stage.isFlying] at flying
        | flying flight =>
            simp only [awaited, found, Option.elim_some, stage, Stage.awaited] at balance
            omega
  rcases List.mem_append.mp ((ledger world moves).complete running number taken) with
    opened | closed
  · obtain ⟨errand, present, own⟩ := List.mem_map.mp opened
    have absent := List.find?_eq_none.mp gone errand present
    simp [own] at absent
  · obtain ⟨closing, present, own⟩ := List.mem_map.mp closed
    exact ⟨closing, present, own⟩

end Runs

/-- Every request that a dispatcher takes before it is told to stop is answered at most once, and
from nothing but its own text and its own replies: with its report, or with the message of its
failure. It is answered when all that it has sent has got a reply by then, whatever the other
requests wait for, unless it crashes when it is built: then it never is. What is seen of it and what
it hears are the same however the others get on. Once told to stop, the dispatcher sends and answers
nothing. -/
theorem hits_answered_once_and_apart (world : Surroundings) (moves : List Move) (number : Nat) :
    (answersTo world moves number).length ≤ 1 ∧
    (∀ answer ∈ answersTo world moves number, ∃ hit,
      (hitsBeforeShutdown moves)[number]? = some hit ∧
      let alone := Exchange.hit (world.agent number) hit.text (repliesTo world moves number)
      (∃ report, alone.outcome = .ended (.report report) ∧
        answer = .completed hit.id report (world.elapsed number)) ∨
      ∃ failure, alone.outcome = .ended (.failure failure) ∧
        answer = .failed hit.id failure.message (world.elapsed number)) ∧
    (∀ before between later hit,
      let soFar := before ++ .start number :: between
      moves = soFar ++ later → .take .shutdown ∉ soFar →
      (hitsBeforeShutdown before)[number]? = some hit →
      (sent world soFar number).length = (repliesTo world soFar number).length →
      let alone := Exchange.hit (world.agent number) hit.text (repliesTo world soFar number)
      (∃ report, alone.outcome = .ended (.report report) ∧
        answersTo world moves number = [.completed hit.id report (world.elapsed number)]) ∨
      (∃ failure, alone.outcome = .ended (.failure failure) ∧
        answersTo world moves number = [.failed hit.id failure.message (world.elapsed number)]) ∨
      (alone.outcome = .ended .crash ∧
        prepare (world.agent number).toTools hit.text = .error .crash ∧
        answersTo world moves number = [])) ∧
    (∀ others : List Move,
      others.filter (Move.concerns number) = moves.filter (Move.concerns number) →
        about world others number = about world moves number ∧
        repliesTo world others number = repliesTo world moves number) ∧
    ∀ earlier later, moves = earlier ++ .take .shutdown :: later →
      occurrences world moves = occurrences world earlier := by
  refine ⟨length_answersTo_le world moves number, fun answer given => ?_, ?_,
    fun others same => ?_, ?_⟩
  · obtain ⟨closing, closed, rfl, told⟩ := exists_closing_of_answer world moves number given
    obtain ⟨hit, ending, taken, alone, -, made⟩ := hit_of_closing world moves closed
    refine ⟨hit, taken, ?_⟩
    rcases Answer.ofEnding?_eq_some_iff.mp (made.symm.trans told) with ⟨report, rfl, same⟩ |
      ⟨failure, rfl, same⟩
    · exact .inl ⟨report, alone, same⟩
    · exact .inr ⟨failure, alone, same⟩
  · intro before between later hit soFar split unstopped taken heard
    have running : (after world soFar).running = true := (running_after_iff ..).mpr unstopped
    rw [← hits_eq world] at taken
    have kept : (hits world soFar)[number]? = some hit := getElem?_hits_append taken _
    have below := (List.getElem?_eq_some_iff.mp kept).1
    obtain ⟨closing, closed, rfl⟩ := exists_closing world soFar number running below
      (hasStarted_after world number before between taken) heard
    obtain ⟨found, ending, own, alone, crashed, made⟩ := hit_of_closing world soFar closed
    rw [← hits_eq world, kept] at own
    cases own
    -- The request stays closed as it is.
    rw [split, answersTo_of_closing world _ (mem_closings_append world soFar closed later), made]
    cases ending with
    | report report => exact .inl ⟨report, alone, rfl⟩
    | failure failure => exact .inr (.inl ⟨failure, alone, rfl⟩)
    | crash => exact .inr (.inr ⟨alone, crashed rfl, rfl⟩)
  · rw [← about_filter, same, about_filter, repliesTo, ← heard_filter, same, heard_filter]
    exact ⟨rfl, rfl⟩
  · rintro earlier later rfl
    exact occurrences_of_shutdown ..

/-- One request waits for a reply that never comes, and the other one is answered beside it. What is
asked for after the command to stop is not even sent. -/
theorem hits_answered_beside_silent_one :
    let world : Surroundings := {
      agent := fun _ => .standard fun _ _ => none
      elapsed := fun _ => 5 }
    let fine : Response := {
      status := { code := 200, three_digits := by decide }
      headers := .empty
      body := .whole [] }
    let before : List Move :=
      [.take (.hit 1 "GET \"http://a/\""), .take (.hit 2 "GET \"http://b/\""), .start 0]
    let soFar := before ++ .start 1 :: [.reply 1 (.response fine)]
    let later : List Move :=
      [.take .shutdown, .take (.hit 3 "GET \"http://c/\""), .start 2, .reply 0 .close]
    let moves := soFar ++ later
    (sent world moves 0).length = 1 ∧ answersTo world moves 0 = [] ∧
    answersTo world moves 1 = [.completed 2 {
      requestLines := ["GET http://b/"]
      responseLines := ["200 OK"]
      body := "" } 5] ∧
    occurrences world moves = occurrences world soFar := by
  intro world fine before soFar later moves
  obtain ⟨-, -, answered, -, stopped⟩ := hits_answered_once_and_apart world moves 1
  have alone : (Exchange.hit (world.agent 1) "GET \"http://b/\"" (repliesTo world soFar 1)).outcome =
      .ended (.report {
        requestLines := ["GET http://b/"]
        responseLines := ["200 OK"]
        body := "" }) := by
    decide +kernel
  refine ⟨by decide +kernel, by decide +kernel, ?_, stopped soFar _ rfl⟩
  rcases answered before [.reply 1 (.response fine)] later
      { id := 2, text := "GET \"http://b/\"" } rfl (by decide +kernel) rfl (by decide +kernel) with
    ⟨report, same, told⟩ | ⟨failure, impossible, -⟩ | ⟨impossible, -⟩
  · cases alone.symm.trans same
    exact told
  · cases alone.symm.trans impossible
  · cases alone.symm.trans impossible

theorem not_answered_of_crash {world : Surroundings} {text : String}
    (crashes : prepare (world.agent 0).toTools text = .error .crash) (id : UInt64) :
    let moves : List Move := [.take (.hit id text), .start 0]
    sent world moves 0 = [] ∧ ∀ later, answersTo world (moves ++ later) 0 = [] := by
  intro moves
  have taken : after world [.take (.hit id text)] =
      { taken := 1, errands := [{ number := 0, id := id, stage := .fresh text }] } := rfl
  have crashed : ((after world [.take (.hit id text)]).step world (.start 0)).2 =
      [.closed { number := 0, id := id, answer? := none }] := by
    rw [taken]
    simp [step, errand?, launch_of_unprepared crashes, settle, Halt.ending, Answer.ofEnding?]
  have closes : closings world moves =
      closings world [.take (.hit id text)] ++ [{ number := 0, id := id, answer? := none }] := by
    have last := closings_concat world [.take (.hit id text)] (.start 0)
    rwa [closingsOf, crashed] at last
  have closed : { number := 0, id := id, answer? := none } ∈ closings world moves := by
    rw [closes]
    exact List.mem_append_right _ List.mem_cons_self
  refine ⟨?_, fun later =>
    answersTo_of_closing world _ (mem_closings_append world moves closed later)⟩
  have sends := sent_concat world [.take (.hit id text)] (.start 0) 0
  rwa [sentOf, crashed] at sends

/-- A request with too many headers crashes and is never answered, although it has sent nothing that
a reply would be missing to. -/
theorem crowded_hit_never_answered :
    let world : Surroundings := {
      agent := fun _ => .standard fun _ _ => none
      elapsed := fun _ => 5 }
    let moves : List Move := [.take (.hit 1 crowdedRequest.written), .start 0]
    .take .shutdown ∉ moves ∧ sent world moves 0 = [] ∧ repliesTo world moves 0 = [] ∧
      ∀ later, answersTo world (moves ++ later) 0 = [] := by
  intro world moves
  have crashes : prepare (world.agent 0).toTools crowdedRequest.written = .error .crash :=
    prepare_crowdedRequest
  obtain ⟨quiet, unanswered⟩ := not_answered_of_crash crashes 1
  exact ⟨by simp [moves], quiet, rfl, unanswered⟩

end Dispatcher

end HttpConsole.Exchange
