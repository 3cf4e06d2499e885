import HttpConsole.Proofs.Exchange.Ledger
import HttpConsole.Proofs.Exchange.Standard

/-! Which requests check certificates. Whether a request accepts any certificate is decided by its
own text, and the agent is told so at each of its turns. So a request that does not accept them is
never sent to a secure URL that is not trusted, whatever other requests the dispatcher serves beside
it. -/

set_option autoImplicit false

namespace HttpConsole.Exchange

def Move.number? : Move → Option Nat
  | .take _ => none
  | .start number => some number
  | .reply number _ => some number

/-- How far a request gets by a move of its own, and what it sends. -/
def Stage.proceed? (agent : Agent) : Stage → Move → Option (Progress × List WireRequest)
  | .fresh text, .start _ => some (launch agent text)
  | .flying flight, .reply _ reply => some (flight.receive agent reply)
  | _, _ => none

/-- The flight for which the agent gets its turn when a request makes a move. -/
def Stage.turning? (tools : Tools) : Stage → Move → Option Flight
  | .fresh text, .start _ => (prepare tools text).toOption.map .start
  | .flying flight, .reply _ reply => if reply.isFinal then some (flight.hear reply) else none
  | _, _ => none

section Stage

variable {agent : Agent} {stage : Stage} {move : Move} {flight : Flight}

theorem Stage.proceed?_of_turning (turns : stage.turning? agent.toTools move = some flight) :
    stage.proceed? agent move = some (flight.proceed agent) := by
  cases stage with
  | fresh text =>
      cases move with
      | start number =>
          obtain ⟨outgoing, prepared, rfl⟩ := Option.map_eq_some_iff.mp turns
          rw [proceed?, launch_of_prepared (eq_ok_of_toOption prepared)]
      | take command => cases turns
      | reply number reply => cases turns
  | flying current =>
      cases move with
      | reply number reply =>
          obtain ⟨final, heard⟩ := Option.ite_none_right_eq_some.mp turns
          rw [proceed?, Flight.receive, if_pos final, ← Option.some.inj heard]
      | take command => cases turns
      | start number => cases turns

/-- If the agent gets no turn, nothing is sent. -/
theorem Stage.proceed?_of_idle (idle : stage.turning? agent.toTools move = none) :
    ∀ course ∈ stage.proceed? agent move, course.2 = [] := by
  intro course proceeds
  cases stage with
  | fresh text =>
      cases move with
      | start number =>
          cases proceeds
          cases prepared : prepare agent.toTools text with
          | error halt => rw [launch_of_unprepared prepared]
          | ok outgoing => simp [turning?, prepared, Except.toOption] at idle
      | take command => cases proceeds
      | reply number reply => cases proceeds
  | flying current =>
      cases move with
      | reply number reply =>
          cases proceeds
          cases final : reply.isFinal with
          | false => simp [Flight.receive, final]
          | true => simp [turning?, final] at idle
      | take command => cases proceeds
      | start number => cases proceeds

end Stage

/-! ## One turn -/

namespace Flight

variable {agent : Agent} {flight : Flight} {request : WireRequest}

/-- What is sent, the agent wanted to send, and it had got a connection for it. -/
theorem turn_of_mem_proceed (sent : request ∈ (flight.proceed agent).2) :
    agent.turn flight = .send request ∧ agent.connect flight request.url = none := by
  unfold proceed at sent
  cases turns : agent.turn flight with
  | deliver response => simp [turns] at sent
  | fail error => simp [turns] at sent
  | send wanted =>
      cases connects : agent.connect flight wanted.url with
      | some error => simp [turns, connects] at sent
      | none =>
          obtain rfl : request = wanted := by simpa [turns, connects] using sent
          exact ⟨rfl, connects⟩

theorem proceed_of_refused {error : LibraryError} (sends : agent.turn flight = .send request)
    (refused : agent.connect flight request.url = some error) :
    flight.proceed agent = (.ended (.failure (.transport error)), []) := by
  simp only [proceed, sends, refused]

theorem eq_of_waiting_proceed {next : Flight}
    (waits : (flight.proceed agent).1 = .waiting next) : next = flight := by
  unfold proceed at waits
  cases turns : agent.turn flight with
  | deliver response => simp [turns] at waits
  | fail error => simp [turns] at waits
  | send request =>
      cases connects : agent.connect flight request.url with
      | some error => simp [turns, connects] at waits
      | none => simpa [turns, connects, eq_comm] using waits

theorem outgoing_of_waiting_receive {reply : Reply} {next : Flight}
    (waits : (flight.receive agent reply).1 = .waiting next) : next.outgoing = flight.outgoing := by
  cases final : reply.isFinal with
  | true =>
      rw [receive, if_pos final] at waits
      rw [eq_of_waiting_proceed waits]
      rfl
  | false =>
      rw [receive, final] at waits
      cases waits
      rfl

end Flight

/-! ## Requests on their way -/

section Policy

variable {agent : Agent} {text : String} {replies : List Reply} {flight : Flight}

/-- A flight is what was built of the text. -/
theorem prepare_of_progressOf (reached : progressOf agent text replies = .waiting flight) :
    prepare agent.toTools text = .ok flight.outgoing := by
  induction replies using List.reverseRecOn generalizing flight with
  | nil =>
      rw [progressOf, List.foldl_nil] at reached
      cases prepared : prepare agent.toTools text with
      | error halt =>
          rw [launch_of_unprepared prepared] at reached
          cases reached
      | ok outgoing =>
          rw [launch_of_prepared prepared] at reached
          rw [Flight.eq_of_waiting_proceed reached]
          rfl
  | append_singleton earlier reply ih =>
      rw [progressOf_concat] at reached
      cases before : progressOf agent text earlier with
      | ended ending =>
          rw [before] at reached
          cases reached
      | waiting current =>
          rw [before, Progress.receive] at reached
          rw [Flight.outgoing_of_waiting_receive reached]
          exact ih before

theorem prepare_of_turning {stage : Stage} (follows : stage.Follows agent text replies)
    {move : Move} (turns : stage.turning? agent.toTools move = some flight) :
    prepare agent.toTools text = .ok flight.outgoing := by
  cases stage with
  | fresh unread =>
      obtain ⟨rfl, -⟩ := follows
      cases move with
      | start number =>
          obtain ⟨outgoing, prepared, rfl⟩ := Option.map_eq_some_iff.mp turns
          exact eq_ok_of_toOption prepared
      | take command => cases turns
      | reply number reply => cases turns
  | flying current =>
      cases move with
      | reply number reply =>
          obtain ⟨-, heard⟩ := Option.ite_none_right_eq_some.mp turns
          have prepared : prepare agent.toTools text = .ok current.outgoing :=
            prepare_of_progressOf follows
          rwa [← Option.some.inj heard]
      | take command => cases turns
      | start number => cases turns

theorem acceptAnyCertificate_of_prepare {tools : Tools} {request : Request}
    (read : Request.parse text = .ok request) {outgoing : Outgoing}
    (prepared : prepare tools text = .ok outgoing) :
    outgoing.policy.acceptAnyCertificate = request.flags.has "insecure" := by
  have built : build tools request = .ok outgoing := by
    rwa [prepare, read] at prepared
  obtain ⟨-, url, headers, -, -, rfl⟩ := build_eq_ok built
  rfl

end Policy

def Occurrence.sentBy? (number : Nat) : Occurrence → Option WireRequest
  | .sent other request => if other = number then some request else none
  | .closed _ => none

namespace Dispatcher

def turning? (world : Surroundings) (dispatcher : Dispatcher) (number : Nat) (move : Move) :
    Option Flight :=
  if move.number? = some number then
    (dispatcher.errand? number).bind fun errand =>
      errand.stage.turning? (world.agent number).toTools move
  else none

/-- What the request of a number sends by a move. -/
def sentOf (world : Surroundings) (number : Nat) (dispatcher : Dispatcher) (move : Move) :
    List WireRequest :=
  (dispatcher.step world move).2.filterMap (Occurrence.sentBy? number)

def sent (world : Surroundings) (moves : List Move) (number : Nat) : List WireRequest :=
  noted (next world) (sentOf world number) {} moves

theorem sent_concat (world : Surroundings) (earlier : List Move) (move : Move) (number : Nat) :
    sent world (earlier ++ [move]) number =
      sent world earlier number ++ sentOf world number (after world earlier) move :=
  noted_concat ..

section Step

variable {world : Surroundings} {dispatcher : Dispatcher} {number : Nat} {move : Move}
  {flight : Flight}

theorem sent_settle (world : Surroundings) (dispatcher : Dispatcher) (errand : Errand)
    (progress : Progress) (sent : List WireRequest) (number : Nat) :
    (dispatcher.settle world errand progress sent).2.filterMap (Occurrence.sentBy? number) =
      if errand.number = number then sent else [] := by
  have own : (sent.map (Occurrence.sent errand.number)).filterMap (Occurrence.sentBy? number) =
      if errand.number = number then sent else [] := by
    rw [List.filterMap_map]
    by_cases same : errand.number = number
    · simp [Occurrence.sentBy?, same]
    · simp [Occurrence.sentBy?, same]
  cases progress with
  | waiting flight => exact own
  | ended ending => simp [settle, own, Occurrence.sentBy?]

theorem step_of_number {errand : Errand} (makes : move.number? = some number)
    (found : dispatcher.errand? number = some errand) : dispatcher.step world move =
      match errand.stage.proceed? (world.agent number) move with
      | some (progress, sent) => dispatcher.settle world errand progress sent
      | none => (dispatcher, []) := by
  cases move with
  | take command => cases makes
  | start other =>
      cases makes
      simp only [step, found]
      cases errand.stage <;> rfl
  | reply other reply =>
      cases makes
      simp only [step, found]
      cases errand.stage <;> rfl

theorem step_of_nobody (nobody : move.number?.bind dispatcher.errand? = none) :
    (dispatcher.step world move).2 = [] := by
  cases move with
  | take command => rfl
  | start other =>
      have nobody : dispatcher.errand? other = none := nobody
      simp only [step, nobody]
  | reply other reply =>
      have nobody : dispatcher.errand? other = none := nobody
      simp only [step, nobody]

/-- A request for which the agent gets its turn is settled by what the agent does. -/
theorem step_of_turning (turns : dispatcher.turning? world number move = some flight) :
    ∃ errand, dispatcher.errand? number = some errand ∧
      errand.stage.turning? (world.agent number).toTools move = some flight ∧
      dispatcher.step world move = dispatcher.settle world errand
        (flight.proceed (world.agent number)).1 (flight.proceed (world.agent number)).2 := by
  simp only [turning?, Option.ite_none_right_eq_some, Option.bind_eq_some_iff] at turns
  obtain ⟨own, errand, found, turns⟩ := turns
  refine ⟨errand, found, turns, ?_⟩
  rw [step_of_number own found, Stage.proceed?_of_turning turns]

/-- What a request sends by a move, it sends in the agent's turn. -/
theorem mem_sentOf {request : WireRequest} (sent : request ∈ sentOf world number dispatcher move) :
    ∃ flight, dispatcher.turning? world number move = some flight ∧
      request ∈ (flight.proceed (world.agent number)).2 := by
  unfold sentOf at sent
  cases active : move.number?.bind dispatcher.errand? with
  | none =>
      rw [step_of_nobody active] at sent
      cases sent
  | some errand =>
      obtain ⟨other, makes, found⟩ := Option.bind_eq_some_iff.mp active
      obtain ⟨-, rfl⟩ := errand?_eq_some found
      rw [step_of_number makes found] at sent
      cases proceeds : errand.stage.proceed? (world.agent errand.number) move with
      | none => simp [proceeds] at sent
      | some course =>
          simp only [proceeds, sent_settle, List.mem_ite_nil_right] at sent
          obtain ⟨rfl, sent⟩ := sent
          cases turns : errand.stage.turning? (world.agent errand.number).toTools move with
          | none =>
              rw [Stage.proceed?_of_idle turns course proceeds] at sent
              cases sent
          | some flight =>
              refine ⟨flight, by simp [turning?, makes, found, turns], ?_⟩
              rw [Stage.proceed?_of_turning turns] at proceeds
              rwa [Option.some.inj proceeds]

end Step

variable {world : Surroundings} {moves : List Move} {number : Nat} {hit : Hit} {request : Request}
  {flight : Flight}

/-- The flight that gets its turn is that of the request which was taken under its number. -/
theorem errand_of_turning {later : List Move} {move : Move}
    (taken : (hits world (moves ++ later))[number]? = some hit)
    (turns : (after world moves).turning? world number move = some flight) : ∃ errand,
    errand.number = number ∧ errand.id = hit.id ∧
    prepare (world.agent number).toTools hit.text = .ok flight.outgoing ∧
    (after world moves).step world move = (after world moves).settle world errand
      (flight.proceed (world.agent number)).1 (flight.proceed (world.agent number)).2 := by
  obtain ⟨errand, found, turns, settles⟩ := step_of_turning turns
  obtain ⟨member, rfl⟩ := errand?_eq_some found
  obtain ⟨text, own, follows⟩ := (ledger world moves).following errand member
  rw [getElem?_hits_append own later] at taken
  cases taken
  exact ⟨errand, rfl, rfl, prepare_of_turning follows turns, settles⟩

/-- Let every agent refuse secure hosts that are not trusted where certificates are checked. Then,
whatever a dispatcher serves beside it, a request that did not ask to accept any certificate is sent
to no secure URL unless this is trusted. When the agent is about to send it to one that is not,
nothing is sent, and it is answered by a failure of transport. -/
theorem strict_hit_sent_plain_only {trusted : Url → Prop}
    (refuses : ∀ number, (world.agent number).RefusesUntrusted trusted)
    (taken : (hits world moves)[number]? = some hit) (read : Request.parse hit.text = .ok request)
    (unasked : request.flags.has "insecure" = false) :
    (∀ wire ∈ sent world moves number, wire.url.scheme = "https" → trusted wire.url) ∧
    ∀ move flight wire, (after world moves).turning? world number move = some flight →
      (world.agent number).turn flight = .send wire →
        wire.url.scheme = "https" → ¬ trusted wire.url →
          ∃ error, (world.agent number).connect flight wire.url = some error ∧
            ((after world moves).step world move).2 = [.closed {
              number := number
              id := hit.id
              answer? := some
                (.failed hit.id (Failure.transport error).message (world.elapsed number)) }] := by
  have refused : ∀ flight url, prepare (world.agent number).toTools hit.text = .ok flight.outgoing →
      url.scheme = "https" → ¬ trusted url →
        ∃ error, (world.agent number).connect flight url = some error := by
    intro flight url prepared secure untrusted
    have checks : flight.outgoing.policy.acceptAnyCertificate = false :=
      (acceptAnyCertificate_of_prepare read prepared).trans unasked
    exact refuses number flight url checks (beq_iff_eq.mpr secure) untrusted
  constructor
  case left =>
    intro wire member secure
    -- What is sent was sent by some move, and the request was taken under its number before it.
    obtain ⟨earlier, move, later, rfl, present⟩ := mem_noted member
    obtain ⟨flight, turns, present⟩ := mem_sentOf present
    obtain ⟨-, connected⟩ := Flight.turn_of_mem_proceed present
    obtain ⟨errand, -, -, prepared, -⟩ := errand_of_turning taken turns
    by_contra untrusted
    obtain ⟨error, fails⟩ := refused flight wire.url prepared secure untrusted
    rw [connected] at fails
    cases fails
  case right =>
    intro move flight wire turns sends secure untrusted
    rw [← List.append_nil moves] at taken
    obtain ⟨errand, rfl, own, prepared, settles⟩ := errand_of_turning taken turns
    obtain ⟨error, fails⟩ := refused flight wire.url prepared secure untrusted
    refine ⟨error, fails, ?_⟩
    rw [settles, Flight.proceed_of_refused sends fails, ← own]
    rfl

/-- A request to the same host that accepts any certificate is sent there, and still a strict one
that is redirected to it from a plain URL is sent no further. -/
theorem strict_hit_sent_plain_only_beside_other :
    let world : Surroundings := { agent := fun _ => .amongUntrusted, elapsed := fun _ => 5 }
    let strict : Hit := { id := 2, text := "GET \"http://a/x\" -location" }
    let moves : List Move := [
      .take (.hit 1 "GET \"https://a/\" -insecure"), .take strict.command, .start 0, .start 1]
    let away : Response := {
      status := { code := 302, three_digits := by decide }
      headers := .ofEntries [("location", Text.encode "https://a/y")]
      body := .whole [] }
    (∀ number, (world.agent number).RefusesUntrusted fun _ => False) ∧
    (sent world moves 0).map (fun wire => wire.url.scheme) = ["https"] ∧
    (sent world moves 1).map (fun wire => wire.url.scheme) = ["http"] ∧
    (∀ wire ∈ sent world moves 1, wire.url.scheme ≠ "https") ∧
    ∃ error : LibraryError, ((after world moves).step world (.reply 1 (.response away))).2 =
      [.closed {
        number := 1
        id := 2
        answer? := some (.failed 2 (Failure.transport error).message 5) }] := by
  intro world strict moves away
  have refuses : ∀ number, (world.agent number).RefusesUntrusted fun _ => False := fun _ =>
    Agent.amongUntrusted_refuses
  have taken : (hits world moves)[1]? = some strict := rfl
  obtain ⟨request, read, unasked⟩ : ∃ request, Request.parse strict.text = .ok request ∧
      request.flags.has "insecure" = false :=
    exists_ok (by decide +kernel)
  have turns : ((after world moves).turning? world 1 (.reply 1 (.response away))).map
      (fun flight => match (world.agent 1).turn flight with
        | .send wire => some wire.url.scheme
        | _ => none) = some (some "https") := by
    decide +kernel
  obtain ⟨flight, turns, goes⟩ := Option.map_eq_some_iff.mp turns
  obtain ⟨plain, refused⟩ := strict_hit_sent_plain_only refuses taken read unasked
  refine ⟨refuses, by decide +kernel, by decide +kernel, plain, ?_⟩
  cases sends : (world.agent 1).turn flight with
  | deliver response => simp [sends] at goes
  | fail error => simp [sends] at goes
  | send wire =>
      simp only [sends, Option.some.injEq] at goes
      obtain ⟨error, -, closed⟩ := refused _ flight wire turns sends goes not_false
      exact ⟨error, closed⟩

end Dispatcher

end HttpConsole.Exchange
