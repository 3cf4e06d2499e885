import HttpConsole.Exchange.Standard
import HttpConsole.Proofs.Exchange.Building
import HttpConsole.Proofs.Url.Reading

/-! What is taken for granted of tools and agents holds of the standard ones. -/

set_option autoImplicit false

namespace HttpConsole.Exchange

namespace Tools

theorem standard_lawful : standard.Lawful where
  toAscii := Url.asciiOnly_lawful
  bounded := fun _ _ holds => of_decide_eq_true holds

end Tools

namespace Agent

section

variable {origin : Outgoing} {current : WireRequest} {redirects : Nat} {heard : List Reply}

/-- Behind a reply a request is sent only if the reply redirects, this was asked for, and ten
redirects were not followed yet. -/
private theorem turnBehind_cons_eq_send {reply : Reply} {request : WireRequest}
    (sends : turnBehind origin current redirects (reply :: heard) = .send request) :
    reply.isRedirect = true ∧ origin.policy.followRedirects = true ∧ redirects < maxRedirects ∧
      ∃ next, turnBehind origin next (redirects + 1) heard = .send request := by
  cases reply with
  | close => cases sends
  | silence => cases sends
  | response response =>
      rw [turnBehind] at sends
      split at sends
      · next target found =>
          rw [Option.ite_none_right_eq_some, Bool.and_eq_true] at found
          simp only [ite_eq_iff, reduceCtorEq, and_false, false_or] at sends
          exact ⟨found.1.2, found.1.1, by omega, _, sends.2.2⟩
      · split at sends <;> cases sends

private theorem turnBehind_concat_eq_send {reply : Reply} {request : WireRequest}
    (sends : turnBehind origin current redirects (heard ++ [reply]) = .send request) :
    reply.isRedirect = true ∧ origin.policy.followRedirects = true := by
  induction heard generalizing current redirects with
  | nil =>
      obtain ⟨redirecting, asked, -⟩ := turnBehind_cons_eq_send sends
      exact ⟨redirecting, asked⟩
  | cons first rest ih =>
      obtain ⟨-, -, -, next, later⟩ := turnBehind_cons_eq_send sends
      exact ih later

private theorem length_of_turnBehind_eq_send {request : WireRequest}
    (few : redirects ≤ maxRedirects)
    (sends : turnBehind origin current redirects heard = .send request) :
    redirects + heard.length ≤ maxRedirects := by
  induction heard generalizing current redirects with
  | nil => exact few
  | cons first rest ih =>
      obtain ⟨-, -, below, next, later⟩ := turnBehind_cons_eq_send sends
      have bound := ih below later
      rw [List.length_cons]
      omega

private theorem getLast?_of_turnBehind_eq_deliver {response : Response}
    (delivers : turnBehind origin current redirects heard = .deliver response) :
    heard.getLast? = some (.response response) := by
  induction heard generalizing current redirects with
  | nil => cases delivers
  | cons first rest ih =>
      cases first with
      | close => cases delivers
      | silence => cases delivers
      | response given =>
          rw [turnBehind] at delivers
          split at delivers
          · simp only [ite_eq_iff, reduceCtorEq, and_false, false_or] at delivers
            rw [List.getLast?_cons, ih delivers.2.2]
            rfl
          · split at delivers
            · next last =>
                cases delivers
                rw [last]
                rfl
            · cases delivers

end

section

variable {connect : Flight → Url → Option LibraryError} {flight : Flight}

/-- An agent that does not give up at once has a URL that can be sent. -/
private theorem turn_standard {turn : Turn} (goes : ∀ error, turn ≠ .fail error)
    (turns : (standard connect).turn flight = turn) :
    turnBehind flight.outgoing flight.outgoing.request 0 flight.heard = turn := by
  simp only [standard] at turns
  split at turns
  · exact turns
  · exact absurd turns.symm (goes _)

private theorem turn_standard_send {request : WireRequest}
    (sends : (standard connect).turn flight = .send request) :
    turnBehind flight.outgoing flight.outgoing.request 0 flight.heard = .send request :=
  turn_standard nofun sends

end

theorem standard_lawful (connect : Flight → Url → Option LibraryError) :
    (standard connect).Lawful where
  sends_built := fun _ _ sends => (Turn.send.inj (turn_standard_send sends)).symm
  delivers_last := fun _ _ delivers =>
    getLast?_of_turnBehind_eq_deliver (turn_standard nofun delivers)
  follows_if_asked := fun _ _ _ _ sends =>
    (turnBehind_concat_eq_send (turn_standard_send sends)).2
  follows_ten := fun flight _ sends => by
    have bound := length_of_turnBehind_eq_send (Nat.zero_le _) (turn_standard_send sends)
    rw [Nat.zero_add] at bound
    exact Nat.le_trans List.countP_le_length bound
  no_retry := fun _ _ _ sends => (turnBehind_concat_eq_send (turn_standard_send sends)).1

theorem amongUntrusted_refuses : amongUntrusted.RefusesUntrusted fun _ => False := by
  intro flight url strict secure _
  refine ⟨.untrusted flight.outgoing.url, ?_⟩
  simp [amongUntrusted, standard, strict, secure]

end Agent

end HttpConsole.Exchange
