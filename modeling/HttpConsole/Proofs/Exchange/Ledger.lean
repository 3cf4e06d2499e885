import HttpConsole.Exchange.Dispatcher
import HttpConsole.Proofs.Exchange.Journey
import Mathlib.Data.List.Induction
import Mathlib.Data.List.Nodup

/-! What has passed through a dispatcher: the requests that it took, the replies that each of them
got, and how they were closed. Every request is closed from its own text and its own replies, and
never twice; as long as the dispatcher runs, none is lost. -/

set_option autoImplicit false

namespace HttpConsole

/-- What a machine has noted at the end of a run, when `note` says what it notes at each step. -/
def noted {State Input Note : Type} (step : State → Input → State)
    (note : State → Input → List Note) : State → List Input → List Note
  | _, [] => []
  | state, input :: rest => note state input ++ noted step note (step state input) rest

theorem noted_append {State Input Note : Type} (step : State → Input → State)
    (note : State → Input → List Note) (state : State) (first second : List Input) :
    noted step note state (first ++ second) =
      noted step note state first ++ noted step note (first.foldl step state) second := by
  induction first generalizing state with
  | nil => rfl
  | cons input rest ih => simp only [List.cons_append, noted, ih, List.foldl_cons,
      List.append_assoc]

theorem noted_concat {State Input Note : Type} (step : State → Input → State)
    (note : State → Input → List Note) (state : State) (earlier : List Input) (input : Input) :
    noted step note state (earlier ++ [input]) =
      noted step note state earlier ++ note (earlier.foldl step state) input := by
  simp only [noted_append, noted, List.append_nil]

theorem mem_noted {State Input Note : Type} {step : State → Input → State}
    {note : State → Input → List Note} {state : State} {inputs : List Input} {item : Note}
    (member : item ∈ noted step note state inputs) : ∃ earlier input later,
    inputs = earlier ++ input :: later ∧ item ∈ note (earlier.foldl step state) input := by
  induction inputs generalizing state with
  | nil => cases member
  | cons input rest ih =>
      rcases List.mem_append.mp member with now | afterwards
      · exact ⟨[], input, rest, rfl, now⟩
      · obtain ⟨earlier, found, later, rfl, present⟩ := ih afterwards
        exact ⟨input :: earlier, found, later, rfl, present⟩

end HttpConsole

namespace HttpConsole.Exchange

/-- A request text and the id under which it is to be answered. -/
structure Hit where
  id : UInt64
  text : String

def Hit.command (hit : Hit) : Command := .hit hit.id hit.text

def Command.hit? : Command → Option Hit
  | .hit id text => some { id := id, text := text }
  | .shutdown => none

def Occurrence.closing? : Occurrence → Option Closing
  | .sent _ _ => none
  | .closed closing => some closing

/-- How a request is closed that was taken under a number and has come to its end. -/
def Hit.closing (hit : Hit) (world : Surroundings) (number : Nat) (ending : Ending) : Closing :=
  { number := number
    id := hit.id
    answer? := Answer.ofEnding? hit.id (world.elapsed number) ending }

@[simp] theorem Hit.hit?_command (hit : Hit) : hit.command.hit? = some hit := rfl

/-- An answer gives the report, or the message of the failure. -/
theorem Answer.ofEnding?_eq_some_iff {id elapsed : UInt64} {ending : Ending} {answer : Answer} :
    Answer.ofEnding? id elapsed ending = some answer ↔
      (∃ report, ending = .report report ∧ answer = .completed id report elapsed) ∨
      ∃ failure, ending = .failure failure ∧ answer = .failed id failure.message elapsed := by
  cases ending <;> simp [ofEnding?, eq_comm]

/-- A reply to a request; one that has come to its end takes none. -/
def Progress.receive (agent : Agent) : Progress → Reply → Progress
  | .waiting flight, reply => (flight.receive agent reply).1
  | .ended ending, _ => .ended ending

/-- How far a request has got with the replies it was given. -/
def progressOf (agent : Agent) (text : String) (replies : List Reply) : Progress :=
  replies.foldl (Progress.receive agent) (launch agent text).1

theorem progressOf_concat (agent : Agent) (text : String) (replies : List Reply) (reply : Reply) :
    progressOf agent text (replies ++ [reply]) =
      (progressOf agent text replies).receive agent reply :=
  List.foldl_concat ..

private theorem foldl_receive_ended (agent : Agent) (ending : Ending) (replies : List Reply) :
    replies.foldl (Progress.receive agent) (.ended ending) = .ended ending := by
  induction replies with
  | nil => rfl
  | cons reply rest ih => exact ih

private theorem run_of_foldl_receive {agent : Agent} {progress : Progress} {replies : List Reply}
    {ending : Ending} (ends : replies.foldl (Progress.receive agent) progress = .ended ending) :
    (progress.run agent (replies.filter Reply.isFinal)).outcome = .ended ending := by
  induction replies generalizing progress with
  | nil =>
      subst ends
      simp only [List.filter_nil, Progress.run]
  | cons reply rest ih =>
      cases progress with
      | ended given =>
          rw [foldl_receive_ended] at ends
          cases ends
          simp only [Progress.run]
      | waiting flight =>
          have later := ih ends
          cases final : reply.isFinal with
          | false =>
              rw [List.filter_cons_of_neg (by simp [final])]
              simpa [Progress.receive, Flight.receive, final] using later
          | true =>
              have heard : reply ≠ .silence := fun silent => by
                rw [silent] at final
                cases final
              rw [List.filter_cons_of_pos final, Progress.run_waiting_cons agent flight heard]
              exact later

/-- A request that has come to its end did what it does alone with its own final replies. -/
theorem hit_of_progressOf {agent : Agent} {text : String} {replies : List Reply} {ending : Ending}
    (ends : progressOf agent text replies = .ended ending) :
    (hit agent text (replies.filter Reply.isFinal)).outcome = .ended ending :=
  run_of_foldl_receive ends

private theorem Flight.proceed_ne_crash (flight : Flight) (agent : Agent) :
    (flight.proceed agent).1 ≠ .ended .crash := by
  unfold proceed
  cases agent.turn flight with
  | fail error => exact nofun
  | deliver response =>
      dsimp only [Response.ending]
      cases response.body <;> exact nofun
  | send request =>
      dsimp only
      cases agent.connect flight request.url <;> exact nofun

/-- A request can crash when it is built only. -/
theorem prepare_of_crash {agent : Agent} {text : String} {replies : List Reply}
    (crashed : progressOf agent text replies = .ended .crash) :
    prepare agent.toTools text = .error .crash := by
  induction replies using List.reverseRecOn with
  | nil =>
      rw [progressOf, List.foldl_nil] at crashed
      cases prepared : prepare agent.toTools text with
      | ok outgoing =>
          rw [launch_of_prepared prepared] at crashed
          exact absurd crashed (Flight.proceed_ne_crash _ agent)
      | error halt =>
          rw [launch_of_unprepared prepared] at crashed
          cases halt with
          | failure failure => cases crashed
          | crash => rfl
  | append_singleton earlier reply ih =>
      rw [progressOf_concat] at crashed
      cases before : progressOf agent text earlier with
      | ended ending =>
          rw [before] at crashed
          cases crashed
          exact ih before
      | waiting flight =>
          rw [before, Progress.receive, Flight.receive] at crashed
          split at crashed
          · exact absurd crashed (Flight.proceed_ne_crash _ agent)
          · cases crashed

def Stage.isFlying : Stage → Bool
  | .fresh _ => false
  | .flying _ => true

/-- The stage of a request that was given some replies. -/
def Stage.Follows (agent : Agent) (text : String) (replies : List Reply) : Stage → Prop
  | .fresh unread => unread = text ∧ replies = []
  | .flying flight => progressOf agent text replies = .waiting flight

namespace Dispatcher

def next (world : Surroundings) (dispatcher : Dispatcher) (move : Move) : Dispatcher :=
  (dispatcher.step world move).1

def after (world : Surroundings) (moves : List Move) : Dispatcher :=
  moves.foldl (next world) {}

/-- The request that is taken by a move. -/
def hitOf (dispatcher : Dispatcher) : Move → List Hit
  | .take command => if dispatcher.running then command.hit?.toList else []
  | _ => []

/-- The reply that the request of a number takes by a move. -/
def replyOf (number : Nat) (dispatcher : Dispatcher) : Move → List Reply
  | .reply other reply =>
      if other = number ∧ (dispatcher.errand? number).any (·.stage.isFlying) then [reply] else []
  | _ => []

/-- The requests closed by a move. -/
def closingsOf (world : Surroundings) (dispatcher : Dispatcher) (move : Move) : List Closing :=
  (dispatcher.step world move).2.filterMap Occurrence.closing?

/-- The requests taken, in the order of their numbers. -/
def hits (world : Surroundings) (moves : List Move) : List Hit :=
  noted (next world) hitOf {} moves

def heard (world : Surroundings) (moves : List Move) (number : Nat) : List Reply :=
  noted (next world) (replyOf number) {} moves

def closings (world : Surroundings) (moves : List Move) : List Closing :=
  noted (next world) (closingsOf world) {} moves

/-- The ids of the requests that were closed without an answer. -/
def unanswered (world : Surroundings) (moves : List Move) : List UInt64 :=
  ((closings world moves).filter (·.answer?.isNone)).map Closing.id

section Concat

variable (world : Surroundings) (earlier : List Move) (move : Move)

theorem after_concat :
    after world (earlier ++ [move]) = (after world earlier).next world move :=
  List.foldl_concat ..

theorem hits_concat :
    hits world (earlier ++ [move]) = hits world earlier ++ (after world earlier).hitOf move :=
  noted_concat ..

theorem heard_concat (number : Nat) : heard world (earlier ++ [move]) number =
    heard world earlier number ++ (after world earlier).replyOf number move :=
  noted_concat ..

theorem closings_concat : closings world (earlier ++ [move]) =
    closings world earlier ++ (after world earlier).closingsOf world move :=
  noted_concat ..

end Concat

/-- A request keeps its number. -/
theorem getElem?_hits_append {world : Surroundings} {earlier : List Move} {number : Nat}
    {hit : Hit} (found : (hits world earlier)[number]? = some hit) (later : List Move) :
    (hits world (earlier ++ later))[number]? = some hit := by
  unfold hits at found ⊢
  rw [noted_append, List.getElem?_append_left (List.getElem?_eq_some_iff.mp found).1]
  exact found

theorem filterMap_answer?_closingsOf (world : Surroundings) (dispatcher : Dispatcher)
    (move : Move) : (dispatcher.closingsOf world move).filterMap Closing.answer? =
      (dispatcher.step world move).2.filterMap Occurrence.answer? := by
  rw [closingsOf, List.filterMap_filterMap]
  refine List.filterMap_congr fun occurrence _ => ?_
  cases occurrence <;> rfl

theorem closings_settle (world : Surroundings) (dispatcher : Dispatcher) (errand : Errand)
    (progress : Progress) (sent : List WireRequest) :
    (dispatcher.settle world errand progress sent).2.filterMap Occurrence.closing? =
      match progress with
      | .waiting _ => []
      | .ended ending => [{
          number := errand.number
          id := errand.id
          answer? := Answer.ofEnding? errand.id (world.elapsed errand.number) ending }] := by
  have quiet : (sent.map (Occurrence.sent errand.number)).filterMap Occurrence.closing? = [] := by
    simp [List.filterMap_map, Function.comp_def, Occurrence.closing?]
  cases progress with
  | waiting flight => exact quiet
  | ended ending => simp [settle, quiet, Occurrence.closing?]

theorem running_settle (world : Surroundings) (dispatcher : Dispatcher) (errand : Errand)
    (progress : Progress) (sent : List WireRequest) :
    (dispatcher.settle world errand progress sent).1.running = dispatcher.running := by
  cases progress <;> rfl

theorem errand?_eq_some {dispatcher : Dispatcher} {number : Nat} {errand : Errand}
    (found : dispatcher.errand? number = some errand) :
    errand ∈ dispatcher.errands ∧ errand.number = number :=
  ⟨List.mem_of_find?_eq_some found, by simpa using List.find?_some found⟩

/-- Only a command stops a dispatcher. -/
theorem running_start (world : Surroundings) (dispatcher : Dispatcher) (number : Nat) :
    (dispatcher.next world (.start number)).running = dispatcher.running := by
  simp only [next, step]
  split
  · split
    · exact running_settle ..
    · rfl
  · rfl

theorem running_reply (world : Surroundings) (dispatcher : Dispatcher) (number : Nat)
    (reply : Reply) :
    (dispatcher.next world (.reply number reply)).running = dispatcher.running := by
  simp only [next, step]
  split
  · split
    · rfl
    · exact running_settle ..
  · rfl

end Dispatcher

/-- How a dispatcher is related to the requests it took, the replies that they got and the requests
it closed. -/
structure Ledger (world : Surroundings) (dispatcher : Dispatcher) (hits : List Hit)
    (heard : Nat → List Reply) (closings : List Closing) : Prop where
  taken : dispatcher.taken = hits.length
  distinct : (dispatcher.errands.map Errand.number ++ closings.map Closing.number).Nodup
  /-- An open request was taken and has got as far as its replies allow. -/
  following : ∀ errand ∈ dispatcher.errands, ∃ text,
    hits[errand.number]? = some { id := errand.id, text := text } ∧
    errand.stage.Follows (world.agent errand.number) text (heard errand.number)
  /-- A request that is closed was taken and has come to its end. -/
  resulting : ∀ closing ∈ closings, ∃ hit ending, hits[closing.number]? = some hit ∧
    progressOf (world.agent closing.number) hit.text (heard closing.number) = .ended ending ∧
    closing = hit.closing world closing.number ending
  unheard : ∀ number, hits.length ≤ number → heard number = []
  complete : dispatcher.running = true → ∀ number < hits.length,
    number ∈ dispatcher.errands.map Errand.number ++ closings.map Closing.number

namespace Ledger

variable {world : Surroundings} {dispatcher : Dispatcher} {hits : List Hit}
  {heard : Nat → List Reply} {closings : List Closing}

theorem empty (world : Surroundings) : Ledger world {} [] (fun _ => []) [] where
  taken := rfl
  distinct := List.nodup_nil
  following := fun _ member => absurd member List.not_mem_nil
  resulting := fun _ member => absurd member List.not_mem_nil
  unheard := fun _ _ => rfl
  complete := fun _ number below => absurd below (Nat.not_lt_zero number)

private theorem number_lt (ledger : Ledger world dispatcher hits heard closings) {number : Nat}
    (member : number ∈ dispatcher.errands.map Errand.number ++ closings.map Closing.number) :
    number < hits.length := by
  rcases List.mem_append.mp member with opened | closed
  · obtain ⟨errand, present, rfl⟩ := List.mem_map.mp opened
    obtain ⟨text, found, -⟩ := ledger.following errand present
    exact (List.getElem?_eq_some_iff.mp found).1
  · obtain ⟨closing, present, rfl⟩ := List.mem_map.mp closed
    obtain ⟨hit, ending, found, -⟩ := ledger.resulting closing present
    exact (List.getElem?_eq_some_iff.mp found).1

theorem id_of_answer (ledger : Ledger world dispatcher hits heard closings) {closing : Closing}
    (member : closing ∈ closings) {answer : Answer} (given : closing.answer? = some answer) :
    answer.id = closing.id := by
  obtain ⟨hit, ending, -, -, made⟩ := ledger.resulting closing member
  rw [made] at given ⊢
  rcases Answer.ofEnding?_eq_some_iff.mp given with ⟨report, -, rfl⟩ | ⟨failure, -, rfl⟩ <;> rfl

/-- A request is closed with an answer under its id, or without one. -/
private theorem count_ids (ledger : Ledger world dispatcher hits heard closings) (id : UInt64) :
    ((closings.filterMap Closing.answer?).map Answer.id).count id +
      ((closings.filter (·.answer?.isNone)).map Closing.id).count id =
        (closings.map Closing.id).count id := by
  have own : ∀ closing ∈ closings, ∀ answer ∈ closing.answer?, answer.id = closing.id :=
    fun closing member answer given => ledger.id_of_answer member given
  clear ledger
  induction closings with
  | nil => rfl
  | cons closing rest ih =>
      have later := ih fun other member => own other (List.mem_cons_of_mem _ member)
      have first := own closing List.mem_cons_self
      cases given : closing.answer? with
      | none =>
          simp only [List.filterMap_cons, given, List.filter_cons, Option.isNone_none, if_true,
            List.map_cons, List.count_cons]
          omega
      | some answer =>
          simp only [List.filterMap_cons, given, List.filter_cons, Option.isNone_some,
            Bool.false_eq_true, if_false, List.map_cons, List.count_cons, first answer given]
          omega

/-- While the dispatcher runs, the requests it took are those that are open and those that it
closed. -/
private theorem ids_perm (ledger : Ledger world dispatcher hits heard closings)
    (running : dispatcher.running = true) :
    (dispatcher.errands.map Errand.id ++ closings.map Closing.id).Perm (hits.map Hit.id) := by
  let idAt (number : Nat) : UInt64 := (hits[number]?.map Hit.id).getD 0
  have numbers : (dispatcher.errands.map Errand.number ++ closings.map Closing.number).Perm
      (List.range hits.length) := by
    refine (List.perm_ext_iff_of_nodup ledger.distinct List.nodup_range).mpr fun number => ?_
    rw [List.mem_range]
    exact ⟨ledger.number_lt, ledger.complete running number⟩
  have opened : dispatcher.errands.map Errand.id =
      (dispatcher.errands.map Errand.number).map idAt := by
    rw [List.map_map]
    refine List.map_congr_left fun errand member => ?_
    obtain ⟨text, found, -⟩ := ledger.following errand member
    simp [idAt, found]
  have closed : closings.map Closing.id = (closings.map Closing.number).map idAt := by
    rw [List.map_map]
    refine List.map_congr_left fun closing member => ?_
    obtain ⟨hit, ending, found, -, made⟩ := ledger.resulting closing member
    rw [Function.comp_apply, made]
    simp [idAt, Hit.closing, found]
  have taken : hits.map Hit.id = (List.range hits.length).map idAt := by
    refine List.ext_getElem (by simp) fun number inside _ => ?_
    have bound : number < hits.length := by simpa using inside
    simp [idAt, bound]
  rw [opened, closed, taken, ← List.map_append]
  exact numbers.map idAt

/-- While the dispatcher runs, a request that it took is open, was answered, or was closed without
an answer. -/
theorem answered_perm (ledger : Ledger world dispatcher hits heard closings)
    (running : dispatcher.running = true) :
    (dispatcher.errands.map Errand.id ++ (closings.filterMap Closing.answer?).map Answer.id ++
      (closings.filter (·.answer?.isNone)).map Closing.id).Perm (hits.map Hit.id) := by
  refine (List.perm_iff_count.mpr fun id => ?_).trans (ledger.ids_perm running)
  simp only [List.count_append, Nat.add_assoc, ledger.count_ids]

private theorem stop (ledger : Ledger world dispatcher hits heard closings) :
    Ledger world { dispatcher with running := false, errands := [] } hits heard closings where
  taken := ledger.taken
  distinct := ledger.distinct.of_append_right
  following := fun _ member => absurd member List.not_mem_nil
  resulting := ledger.resulting
  unheard := ledger.unheard
  complete := fun running => absurd running Bool.false_ne_true

/-- A new request gets a number that no other has. -/
private theorem addErrand (ledger : Ledger world dispatcher hits heard closings)
    (running : dispatcher.running = true) (hit : Hit) :
    Ledger world
      { dispatcher with
        taken := dispatcher.taken + 1
        errands := dispatcher.errands ++
          [{ number := dispatcher.taken, id := hit.id, stage := .fresh hit.text }] }
      (hits ++ [hit]) heard closings := by
  have new : dispatcher.taken ∉
      dispatcher.errands.map Errand.number ++ closings.map Closing.number := by
    intro member
    have below := ledger.number_lt member
    have taken := ledger.taken
    omega
  have kept {number : Nat} {other : Hit} (found : hits[number]? = some other) :
      (hits ++ [hit])[number]? = some other := by
    rw [List.getElem?_append_left (List.getElem?_eq_some_iff.mp found).1, found]
  constructor
  case taken => simp [ledger.taken]
  case distinct =>
    simp only [List.map_append, List.map_cons, List.map_nil, List.append_assoc,
      List.singleton_append]
    exact List.perm_middle.nodup_iff.mpr (List.nodup_cons.mpr ⟨new, ledger.distinct⟩)
  case following =>
    intro errand member
    rcases List.mem_append.mp member with old | added
    · obtain ⟨text, found, follows⟩ := ledger.following errand old
      exact ⟨text, kept found, follows⟩
    · rw [List.mem_singleton] at added
      subst added
      refine ⟨hit.text, ?_, rfl, ledger.unheard _ (Nat.le_of_eq ledger.taken.symm)⟩
      simp [ledger.taken]
  case resulting =>
    intro closing member
    obtain ⟨other, ending, found, ends, made⟩ := ledger.resulting closing member
    exact ⟨other, ending, kept found, ends, made⟩
  case unheard =>
    intro number above
    rw [List.length_append] at above
    exact ledger.unheard number (Nat.le_of_add_right_le above)
  case complete =>
    intro _ number below
    rw [List.length_append, List.length_singleton, Nat.lt_succ_iff_lt_or_eq] at below
    rcases below with below | rfl
    · have member := ledger.complete running number below
      simp only [List.map_append, List.mem_append] at member ⊢
      rcases member with opened | closed
      · exact .inl (.inl opened)
      · exact .inr closed
    · simp [ledger.taken]

private theorem take (ledger : Ledger world dispatcher hits heard closings) (command : Command) :
    Ledger world (dispatcher.take command) (hits ++ dispatcher.hitOf (.take command)) heard
      closings := by
  cases running : dispatcher.running with
  | false => simpa [Dispatcher.take, Dispatcher.hitOf, running] using ledger
  | true =>
      cases command with
      | shutdown =>
          simpa [Dispatcher.take, Dispatcher.hitOf, running, Command.hit?] using ledger.stop
      | hit id text =>
          simpa [Dispatcher.take, Dispatcher.hitOf, running, Command.hit?] using
            ledger.addErrand running { id := id, text := text }

private theorem number_not_mem_closings (ledger : Ledger world dispatcher hits heard closings)
    {errand : Errand} (member : errand ∈ dispatcher.errands) :
    errand.number ∉ closings.map Closing.number :=
  (List.disjoint_of_nodup_append ledger.distinct) (List.mem_map_of_mem member)

section Settling

variable (ledger : Ledger world dispatcher hits heard closings) {errand : Errand}
  (member : errand ∈ dispatcher.errands) {text : String}
  (taken : hits[errand.number]? = some { id := errand.id, text := text })
  {heardNow : Nat → List Reply}
  (others : ∀ number, number ≠ errand.number → heardNow number = heard number)

include ledger member taken others

omit taken in
private theorem resulting_of_others : ∀ closing ∈ closings, ∃ hit ending,
    hits[closing.number]? = some hit ∧
    progressOf (world.agent closing.number) hit.text (heardNow closing.number) = .ended ending ∧
    closing = hit.closing world closing.number ending := by
  intro closing present
  have different : closing.number ≠ errand.number := by
    intro same
    exact ledger.number_not_mem_closings member (same ▸ List.mem_map_of_mem present)
  rw [others _ different]
  exact ledger.resulting closing present

omit member in
private theorem unheard_of_others : ∀ number, hits.length ≤ number → heardNow number = [] := by
  intro number above
  have below := (List.getElem?_eq_some_iff.mp taken).1
  rw [others number (by omega)]
  exact ledger.unheard number above

/-- A request goes on with its replies, and all others stay as they are. -/
private theorem setStage {flight : Flight}
    (reached :
      progressOf (world.agent errand.number) text (heardNow errand.number) = .waiting flight) :
    Ledger world (dispatcher.setStage errand.number (.flying flight)) hits heardNow closings := by
  have numbers : (dispatcher.setStage errand.number (.flying flight)).errands.map
      Errand.number = dispatcher.errands.map Errand.number := by
    simp only [Dispatcher.setStage, List.map_map]
    refine List.map_congr_left fun other _ => ?_
    simp only [Function.comp_apply]
    split <;> rfl
  constructor
  case taken => exact ledger.taken
  case distinct =>
    rw [numbers]
    exact ledger.distinct
  case following =>
    intro changed present
    obtain ⟨other, member, rfl⟩ := List.mem_map.mp present
    obtain ⟨otherText, found, follows⟩ := ledger.following other member
    -- A number belongs to one request, so the text is the one that was taken under it.
    by_cases same : other.number = errand.number
    · rw [if_pos same]
      refine ⟨otherText, found, ?_⟩
      rw [same, taken] at found
      have sameText : text = otherText := congrArg Hit.text (Option.some.inj found)
      simpa only [Stage.Follows, same, ← sameText] using reached
    · rw [if_neg same]
      refine ⟨otherText, found, ?_⟩
      rw [others _ same]
      exact follows
  case resulting => exact ledger.resulting_of_others member others
  case unheard => exact ledger.unheard_of_others taken others
  case complete =>
    intro running number below
    rw [numbers]
    exact ledger.complete running number below

/-- A request is closed from its replies, and all others stay as they are. -/
private theorem drop {ending : Ending}
    (reached : progressOf (world.agent errand.number) text (heardNow errand.number) =
      .ended ending) :
    Ledger world (dispatcher.drop errand.number) hits heardNow
      (closings ++ [{
        number := errand.number
        id := errand.id
        answer? := Answer.ofEnding? errand.id (world.elapsed errand.number) ending }]) := by
  constructor
  case taken => exact ledger.taken
  case distinct =>
    have kept : ((dispatcher.drop errand.number).errands.map Errand.number ++
        closings.map Closing.number).Nodup :=
      ledger.distinct.sublist ((List.filter_sublist.map _).append_right _)
    have gone : errand.number ∉ (dispatcher.drop errand.number).errands.map Errand.number := by
      simp [Dispatcher.drop]
    have unclosed := ledger.number_not_mem_closings member
    rw [List.map_append, ← List.append_assoc, List.map_singleton, ← List.concat_eq_append]
    refine kept.concat fun present => ?_
    exact (List.mem_append.mp present).elim gone unclosed
  case following =>
    intro other present
    obtain ⟨present, different⟩ := List.mem_filter.mp present
    obtain ⟨otherText, found, follows⟩ := ledger.following other present
    refine ⟨otherText, found, ?_⟩
    rw [others _ (by simpa using different)]
    exact follows
  case resulting =>
    intro closing present
    rcases List.mem_append.mp present with old | added
    · exact ledger.resulting_of_others member others closing old
    · rw [List.mem_singleton] at added
      subst added
      exact ⟨_, ending, taken, reached, rfl⟩
  case unheard => exact ledger.unheard_of_others taken others
  case complete =>
    intro running number below
    have covered := ledger.complete running number below
    simp only [Dispatcher.drop, List.map_append, List.mem_append, List.mem_map,
      List.mem_filter] at covered ⊢
    by_cases same : number = errand.number
    · simp [same]
    · rcases covered with ⟨other, present, rfl⟩ | closed
      · exact .inl ⟨other, ⟨present, by simpa using same⟩, rfl⟩
      · exact .inr (.inl closed)

private theorem settle {progress : Progress}
    (reached : progressOf (world.agent errand.number) text (heardNow errand.number) = progress)
    (sent : List WireRequest) :
    Ledger world (dispatcher.settle world errand progress sent).1 hits heardNow
      (closings ++
        (dispatcher.settle world errand progress sent).2.filterMap Occurrence.closing?) := by
  rw [Dispatcher.closings_settle]
  cases progress with
  | waiting flight =>
      simpa only [Dispatcher.settle, List.append_nil] using
        ledger.setStage member taken others reached
  | ended ending => exact ledger.drop member taken others reached

end Settling

private theorem start (ledger : Ledger world dispatcher hits heard closings) (number : Nat) :
    Ledger world (dispatcher.next world (.start number)) hits heard
      (closings ++ dispatcher.closingsOf world (.start number)) := by
  simp only [Dispatcher.next, Dispatcher.closingsOf, Dispatcher.step]
  cases found : dispatcher.errand? number with
  | none => simpa using ledger
  | some errand =>
      obtain ⟨member, rfl⟩ := Dispatcher.errand?_eq_some found
      obtain ⟨text, taken, follows⟩ := ledger.following errand member
      cases stage : errand.stage with
      | flying flight => simpa [stage] using ledger
      | fresh unread =>
          rw [stage] at follows
          obtain ⟨rfl, untouched⟩ := follows
          have reached : progressOf (world.agent errand.number) unread (heard errand.number) =
              (launch (world.agent errand.number) unread).1 := by
            rw [untouched]
            rfl
          simpa only [stage] using ledger.settle member taken (fun _ _ => rfl) reached
            (launch (world.agent errand.number) unread).2

private theorem reply (ledger : Ledger world dispatcher hits heard closings) (number : Nat)
    (reply : Reply) :
    Ledger world (dispatcher.next world (.reply number reply)) hits
      (fun other => heard other ++ dispatcher.replyOf other (.reply number reply))
      (closings ++ dispatcher.closingsOf world (.reply number reply)) := by
  simp only [Dispatcher.next, Dispatcher.closingsOf, Dispatcher.step]
  cases found : dispatcher.errand? number with
  | none =>
      have nobody (other : Nat) : dispatcher.replyOf other (.reply number reply) = [] := by
        refine if_neg ?_
        rintro ⟨rfl, flying⟩
        simp [found] at flying
      simpa [nobody] using ledger
  | some errand =>
      obtain ⟨member, rfl⟩ := Dispatcher.errand?_eq_some found
      obtain ⟨text, taken, follows⟩ := ledger.following errand member
      cases stage : errand.stage with
      | fresh unread =>
          have nobody (other : Nat) :
              dispatcher.replyOf other (.reply errand.number reply) = [] := by
            refine if_neg ?_
            rintro ⟨rfl, flying⟩
            simp [found, stage, Stage.isFlying] at flying
          simpa [nobody, stage] using ledger
      | flying flight =>
          rw [stage] at follows
          have takes : dispatcher.replyOf errand.number (.reply errand.number reply) =
              [reply] :=
            if_pos ⟨rfl, by simp [found, stage, Stage.isFlying]⟩
          have reached : progressOf (world.agent errand.number) text (heard errand.number ++
              dispatcher.replyOf errand.number (.reply errand.number reply)) =
              (flight.receive (world.agent errand.number) reply).1 := by
            rw [takes, progressOf_concat, follows]
            rfl
          have others (other : Nat) (different : other ≠ errand.number) :
              heard other ++ dispatcher.replyOf other (.reply errand.number reply) =
                heard other := by
            rw [Dispatcher.replyOf, if_neg fun both => different both.1.symm, List.append_nil]
          simpa only [stage] using ledger.settle member taken others reached
            (flight.receive (world.agent errand.number) reply).2

/-- What a move adds to the ledger. -/
theorem step (ledger : Ledger world dispatcher hits heard closings) (move : Move) :
    Ledger world (dispatcher.next world move) (hits ++ dispatcher.hitOf move)
      (fun number => heard number ++ dispatcher.replyOf number move)
      (closings ++ dispatcher.closingsOf world move) := by
  cases move with
  | take command =>
      simpa [Dispatcher.next, Dispatcher.closingsOf, Dispatcher.step, Dispatcher.replyOf] using
        ledger.take command
  | start number => simpa [Dispatcher.hitOf, Dispatcher.replyOf] using ledger.start number
  | reply number reply => simpa [Dispatcher.hitOf] using ledger.reply number reply

end Ledger

theorem Dispatcher.ledger (world : Surroundings) (moves : List Move) :
    Ledger world (after world moves) (hits world moves) (heard world moves)
      (closings world moves) := by
  induction moves using List.reverseRecOn with
  | nil => exact .empty world
  | append_singleton earlier move ih =>
      have heardNow : heard world (earlier ++ [move]) = fun number =>
          heard world earlier number ++ (after world earlier).replyOf number move :=
        funext fun number => heard_concat world earlier move number
      rw [after_concat, hits_concat, closings_concat, heardNow]
      exact ih.step move

end HttpConsole.Exchange
