import HttpConsole.Proofs.Exchange.Building
import HttpConsole.Proofs.Exchange.Standard
import HttpConsole.Exchange.Flight

/-! The way of one request from its text to its end. What cannot be built sends nothing. What is sent
takes one final reply for each request, goes on only where a redirect may be followed, and ends with
what the last reply says. -/

set_option autoImplicit false

namespace HttpConsole.Exchange

/-- How many requests a policy allows. -/
def Policy.mostRequests (policy : Policy) : Nat :=
  if policy.followRedirects then maxRedirects + 1 else 1

/-- A flight that sends a request on its turn, behind nothing but redirects. -/
structure Flight.IsUnderWay (agent : Agent) (flight : Flight) : Prop where
  sends : ∃ request, agent.turn flight = .send request
  redirected : ∀ reply ∈ flight.heard, reply.isRedirect = true

namespace Flight.IsUnderWay

variable {agent : Agent} {flight : Flight} {request : WireRequest}

theorem start {outgoing : Outgoing} (sends : agent.turn (.start outgoing) = .send request) :
    IsUnderWay agent (.start outgoing) where
  sends := ⟨request, sends⟩
  redirected := fun _ impossible => nomatch impossible

theorem hear (lawful : agent.Lawful) (underWay : flight.IsUnderWay agent) {reply : Reply}
    (sends : agent.turn (flight.hear reply) = .send request) :
    (flight.hear reply).IsUnderWay agent where
  sends := ⟨request, sends⟩
  redirected := fun other member => by
    rcases List.mem_append.mp member with earlier | last
    · exact underWay.redirected other earlier
    · rw [List.mem_singleton.mp last]
      exact lawful.no_retry flight reply request sends

theorem length_lt (lawful : agent.Lawful) (underWay : flight.IsUnderWay agent) :
    flight.heard.length < flight.outgoing.policy.mostRequests := by
  obtain ⟨⟨request, sends⟩, redirected⟩ := underWay
  obtain ⟨outgoing, heard⟩ := flight
  rcases List.eq_nil_or_concat heard with rfl | ⟨earlier, reply, rfl⟩
  · rw [Policy.mostRequests]
    split <;> exact Nat.zero_lt_succ _
  · have asked : outgoing.policy.followRedirects = true :=
      lawful.follows_if_asked ⟨outgoing, earlier⟩ reply request (redirected reply (by simp))
        (by simpa [Flight.hear] using sends)
    have few := lawful.follows_ten _ request sends
    rw [List.countP_eq_length.mpr redirected] at few
    rw [Policy.mostRequests, if_pos asked]
    exact Nat.lt_succ_of_le few

end Flight.IsUnderWay

/-- What becomes of a flight that has sent its request when it meets the replies of a script. Each
further request takes one final reply more, and the last of them gives the result. -/
structure Flight.Journey (flight : Flight) (script : List Reply) (run : Run) : Prop where
  few : flight.heard.length + 1 + run.sent.length ≤ flight.outgoing.policy.mostRequests
  result : ∀ ending, run.outcome = .ended ending →
    (∃ error, ending = .failure (.transport error)) ∨
      ∃ consumed response, script = consumed ++ .response response :: run.left ∧
        (consumed.countP Reply.isFinal) = run.sent.length ∧
        (Reply.response response).isFinal = true ∧ ending = response.ending flight.outgoing

namespace Flight.Journey

variable {agent : Agent} {flight : Flight} {script rest : List Reply} {run : Run} {reply : Reply}

theorem ended (bound : flight.heard.length < flight.outgoing.policy.mostRequests)
    (error : LibraryError) (left : List Reply) : flight.Journey script
      { outcome := .ended (.failure (.transport error)), sent := [], left := left } where
  few := bound
  result := fun ending ends => by
    cases ends
    exact .inl ⟨error, rfl⟩

/-- A reply that does not count is passed over. -/
theorem passOver (interim : reply.isFinal = false) (journey : flight.Journey rest run) :
    flight.Journey (reply :: rest) run where
  few := journey.few
  result := fun ending ends => by
    rcases journey.result ending ends with broken | ⟨consumed, response, split, counted, last⟩
    · exact .inl broken
    · refine .inr ⟨reply :: consumed, response, by rw [split]; rfl, ?_, last⟩
      rw [List.countP_cons_of_neg (by simp [interim]), counted]

/-- A reply that sends the flight on. -/
theorem onward (final : reply.isFinal = true) (request : WireRequest)
    (journey : (flight.hear reply).Journey rest run) :
    flight.Journey (reply :: rest) (run.after [request]) where
  few := by
    have few := journey.few
    simp only [hear, List.length_append, List.length_singleton] at few
    simp only [Run.after, List.length_append, List.length_singleton]
    omega
  result := fun ending ends => by
    rcases journey.result ending ends with broken | ⟨consumed, response, split, counted, last⟩
    · exact .inl broken
    · refine .inr ⟨reply :: consumed, response, by rw [split]; rfl, ?_, last⟩
      rw [List.countP_cons_of_pos final, counted, Run.after, List.length_append,
        List.length_singleton, Nat.add_comm]

/-- The last reply, which the agent delivers. -/
theorem delivered (bound : flight.heard.length < flight.outgoing.policy.mostRequests)
    (response : Response) (final : (Reply.response response).isFinal = true) :
    flight.Journey (.response response :: rest)
      { outcome := .ended (response.ending flight.outgoing), sent := [], left := rest } where
  few := bound
  result := fun ending ends => by
    cases ends
    exact .inr ⟨[], response, rfl, rfl, final, rfl⟩

end Flight.Journey

/-- What a lawful agent can do when a flight has heard a reply. -/
theorem Flight.proceed_hear_cases {agent : Agent} (lawful : agent.Lawful) (flight : Flight)
    (reply : Reply) :
    (∃ request, agent.turn (flight.hear reply) = .send request ∧
      (flight.hear reply).proceed agent = (.waiting (flight.hear reply), [request])) ∨
    (∃ error, (flight.hear reply).proceed agent = (.ended (.failure (.transport error)), [])) ∨
    ∃ response, reply = .response response ∧
      (flight.hear reply).proceed agent = (.ended (response.ending flight.outgoing), []) := by
  unfold proceed
  cases turns : agent.turn (flight.hear reply) with
  | fail error => exact .inr (.inl ⟨error, rfl⟩)
  | deliver response =>
      have last := lawful.delivers_last _ response turns
      rw [hear, List.getLast?_concat] at last
      exact .inr (.inr ⟨response, Option.some.inj last, rfl⟩)
  | send request =>
      cases connects : agent.connect (flight.hear reply) request.url with
      | none => exact .inl ⟨request, rfl, by simp only [connects]⟩
      | some error => exact .inr (.inl ⟨error, by simp only [connects]⟩)

theorem Progress.run_waiting_cons (agent : Agent) (flight : Flight) {reply : Reply}
    (heard : reply ≠ .silence) (rest : List Reply) :
    (Progress.waiting flight).run agent (reply :: rest) =
      ((flight.receive agent reply).1.run agent rest).after (flight.receive agent reply).2 := by
  cases reply with
  | silence => exact absurd rfl heard
  | close => rw [run]; exact heard
  | response response => rw [run]; exact heard

theorem Flight.journey {agent : Agent} (lawful : agent.Lawful) {flight : Flight}
    (underWay : flight.IsUnderWay agent) (script : List Reply) :
    flight.Journey script ((Progress.waiting flight).run agent script) := by
  -- By induction on the script, since each request takes one final reply; the flight has heard one
  -- reply more behind each of them.
  have bound := underWay.length_lt lawful
  induction script generalizing flight with
  | nil =>
      have nobody : ∀ request, agent.turn (flight.hear .close) ≠ .send request :=
        fun request sends => nomatch lawful.no_retry flight .close request sends
      have heard : flight.receive agent .close = (flight.hear .close).proceed agent := rfl
      rw [Progress.run, heard]
      rcases flight.proceed_hear_cases lawful .close with ⟨request, sends, -⟩ | ⟨error, fails⟩ |
        ⟨response, impossible, -⟩
      · exact absurd sends (nobody request)
      · rw [fails]
        exact .ended bound error []
      · cases impossible
  | cons reply rest ih =>
      by_cases silent : reply = .silence
      · subst silent
        rw [Progress.run]
        exact { few := bound, result := fun ending impossible => nomatch impossible }
      rw [Progress.run_waiting_cons agent flight silent, receive]
      cases final : reply.isFinal with
      | false => exact .passOver final (ih underWay bound)
      | true =>
          rw [if_pos rfl]
          rcases flight.proceed_hear_cases lawful reply with ⟨request, sends, waits⟩ |
            ⟨error, fails⟩ | ⟨response, rfl, delivers⟩
          · rw [waits]
            have further := underWay.hear lawful sends
            exact .onward final request (ih further (further.length_lt lawful))
          · rw [fails, Progress.run]
            exact .ended bound error rest
          · rw [delivers, Progress.run]
            exact .delivered bound response final

/-- A response gives a report if its body is whole, and a failure if it is not. -/
theorem Response.ending_cases (response : Response) (outgoing : Outgoing) :
    (∃ error, response.body = .broken error ∧
      response.ending outgoing = .failure (.body error)) ∨
    ∃ bytes, response.body = .whole bytes ∧ response.ending outgoing = .report {
      requestLines := outgoing.lines
      responseLines := Http.responseLines response.status response.headers
      body := Http.bodyText Http.bodyCheck bytes } := by
  unfold ending
  cases response.body with
  | broken error => exact .inl ⟨error, rfl, rfl⟩
  | whole bytes => exact .inr ⟨bytes, rfl, rfl⟩

section Launch

variable {agent : Agent} {text : String}

theorem launch_of_unprepared {halt : Halt} (halted : prepare agent.toTools text = .error halt) :
    launch agent text = (.ended halt.ending, []) := by
  simp only [launch, halted]

theorem hit_of_unprepared {halt : Halt} (halted : prepare agent.toTools text = .error halt)
    (script : List Reply) :
    hit agent text script = { outcome := .ended halt.ending, sent := [], left := script } := by
  rw [hit, launch_of_unprepared halted]
  dsimp only
  rw [Progress.run]
  rfl

variable {outgoing : Outgoing} (prepared : prepare agent.toTools text = .ok outgoing)
include prepared

theorem launch_of_prepared : launch agent text = (Flight.start outgoing).proceed agent := by
  simp only [launch, prepared]

theorem hit_of_sent (sends : agent.turn (.start outgoing) = .send outgoing.request)
    (connects : agent.connect (.start outgoing) outgoing.url = none) (script : List Reply) :
    hit agent text script =
      ((Progress.waiting (.start outgoing)).run agent script).after [outgoing.request] := by
  have connected : agent.connect (.start outgoing) outgoing.request.url = none := connects
  rw [hit, launch_of_prepared prepared]
  simp only [Flight.proceed, sends, connected]

/-- What is built goes on its way with the request as it was built, or it is given up before. -/
theorem hit_cases (lawful : agent.Lawful) (script : List Reply) :
    ((Flight.start outgoing).IsUnderWay agent ∧ hit agent text script =
      ((Progress.waiting (.start outgoing)).run agent script).after [outgoing.request]) ∨
    ∃ error, hit agent text script =
      { outcome := .ended (.failure (.transport error)), sent := [], left := script } := by
  cases turns : agent.turn (.start outgoing) with
  | deliver response => cases lawful.delivers_last _ response turns
  | fail error =>
      refine .inr ⟨error, ?_⟩
      rw [hit, launch_of_prepared prepared]
      simp only [Flight.proceed, turns, Progress.run]
      rfl
  | send request =>
      obtain rfl := lawful.sends_built outgoing request turns
      cases connects : agent.connect (.start outgoing) outgoing.request.url with
      | none => exact .inl ⟨.start turns, hit_of_sent prepared turns connects script⟩
      | some error =>
          refine .inr ⟨error, ?_⟩
          rw [hit, launch_of_prepared prepared]
          simp only [Flight.proceed, turns, connects, Progress.run]
          rfl

/-- What is built ends with a failure of transport or with the response that was taken last. -/
theorem hit_result (lawful : agent.Lawful) {script : List Reply} {ending : Ending}
    (ends : (hit agent text script).outcome = .ended ending) :
    (∃ error, ending = .failure (.transport error)) ∨
      ∃ consumed response,
        script = consumed ++ .response response :: (hit agent text script).left ∧
        consumed.countP Reply.isFinal + 1 = (hit agent text script).sent.length ∧
        (Reply.response response).isFinal = true ∧ ending = response.ending outgoing := by
  rcases hit_cases prepared lawful script with ⟨underWay, sends⟩ | ⟨error, fails⟩
  · have journey := Flight.journey lawful underWay script
    rw [sends] at ends ⊢
    rcases journey.result ending ends with broken | ⟨consumed, response, split, counted, last⟩
    · exact .inl broken
    · refine .inr ⟨consumed, response, split, ?_, last⟩
      rw [counted, Run.after, List.length_append, List.length_singleton, Nat.add_comm]
  · rw [fails] at ends
    cases ends
    exact .inl ⟨error, rfl⟩

end Launch

end HttpConsole.Exchange
