import HttpConsole.Proofs.Console.Routing

/-! The console waits for the latest request only. Ids are issued in increasing order, and what the
console waits for is the latest of them until its answer comes back. -/

set_option autoImplicit false

namespace HttpConsole.Console

open HttpConsole.Exchange (Answer Hit Move Reply Surroundings)

/-- The id of the request before which `number` others were issued. -/
def requestId (number : Nat) : UInt64 := .ofNat (number + 1)

theorem requestId_add_one (number : Nat) : requestId number + 1 = requestId (number + 1) := by
  rw [requestId, requestId, UInt64.ofNat_add (number + 1) 1]
  rfl

private theorem toNat_requestId {number : Nat} (bound : number + 1 < UInt64.size) :
    (requestId number).toNat = number + 1 :=
  UInt64.toNat_ofNat_of_lt' bound

theorem requestId_injective {left right : Nat} (leftBound : left + 1 < UInt64.size)
    (rightBound : right + 1 < UInt64.size) (same : requestId left = requestId right) :
    left = right := by
  have numbers := congrArg UInt64.toNat same
  rw [toNat_requestId leftBound, toNat_requestId rightBound] at numbers
  omega

theorem pairwise_requestId {count : Nat} (bound : count < UInt64.size) :
    ((List.range count).map requestId).Pairwise (· < ·) := by
  rw [List.pairwise_map]
  refine List.pairwise_lt_range.imp_of_mem fun {left right} leftMember rightMember less => ?_
  rw [List.mem_range] at leftMember rightMember
  rw [UInt64.lt_iff_toNat_lt, toNat_requestId (by omega), toNat_requestId (by omega)]
  omega

/-- The request that a state sends next. -/
def State.nextHit (state : State) : Hit :=
  { id := state.nextId, text := state.draft.text }

/-- What a state knows of the requests that were issued and of the answers that came back. -/
structure Waiting (state : State) (issued : List Hit) (received applied : List Answer) : Prop where
  ids : issued.map Hit.id = (List.range issued.length).map requestId
  nextId : state.nextId = requestId issued.length
  loading : state.isLoading = state.pendingId.isSome
  pending : ∀ id, state.pendingId = some id ↔
    (issued.map Hit.id).getLast? = some id ∧ id ∉ received.map Answer.id
  settled : ∀ id, (issued.map Hit.id).getLast? = some id → id ∈ received.map Answer.id →
    ∃ answer ∈ received, applied.getLast? = some answer ∧ answer.id = id

namespace Waiting

variable {state : State} {issued : List Hit} {received applied : List Answer}

theorem start (text : String) : Waiting (.ofDraftText text) [] [] [] where
  ids := rfl
  nextId := rfl
  loading := rfl
  pending := fun id => by simp [State.ofDraftText]
  settled := fun _ latest => by simp at latest

theorem id_eq (waiting : Waiting state issued received applied) {number : Nat} {hit : Hit}
    (found : issued[number]? = some hit) : hit.id = requestId number := by
  have ids := congrArg (·[number]?) waiting.ids
  have below := (List.getElem?_eq_some_iff.mp found).1
  simp only [List.getElem?_map, found, List.getElem?_range below, Option.map_some,
    Option.some.injEq] at ids
  exact ids

/-- Nothing but sending and receiving touches what a state waits for. -/
theorem of_same (waiting : Waiting state issued received applied) {other : State}
    (nextId : other.nextId = state.nextId) (isLoading : other.isLoading = state.isLoading)
    (pendingId : other.pendingId = state.pendingId) : Waiting other issued received applied where
  ids := waiting.ids
  nextId := nextId.trans waiting.nextId
  loading := by rw [isLoading, pendingId, waiting.loading]
  pending := fun id => by rw [pendingId, waiting.pending]
  settled := waiting.settled

theorem send (waiting : Waiting state issued received applied)
    (fresh : requestId issued.length ∉ received.map Answer.id) :
    Waiting state.send.1 (issued ++ [state.nextHit]) received applied := by
  have latest : ((issued ++ [state.nextHit]).map Hit.id).getLast? =
      some (requestId issued.length) := by
    simp [State.nextHit, waiting.nextId]
  constructor
  case ids =>
    simp only [List.map_append, List.map_cons, List.map_nil, List.length_append,
      List.length_singleton, List.range_succ, waiting.ids, State.nextHit, waiting.nextId]
  case nextId =>
    rw [List.length_append, List.length_singleton, ← requestId_add_one, ← waiting.nextId]
    rfl
  case loading => rfl
  case pending =>
    intro id
    have pending : state.send.1.pendingId = some (requestId issued.length) :=
      congrArg some waiting.nextId
    rw [latest, pending]
    constructor
    · rintro ⟨rfl⟩
      exact ⟨rfl, fresh⟩
    · exact And.left
  case settled =>
    intro id isLatest came
    rw [latest] at isLatest
    cases isLatest
    exact absurd came fresh

theorem receive (waiting : Waiting state issued received applied) (answer : Answer) :
    Waiting (state.receive answer) issued (received ++ [answer])
      (applied ++ [answer].filter (state.pendingId = some ·.id)) := by
  by_cases awaited : state.pendingId = some answer.id
  · have latest := ((waiting.pending answer.id).mp awaited).1
    have done : (state.receive answer).pendingId = none := by
      rw [State.receive, if_pos awaited]
      cases answer <;> rfl
    constructor
    case ids => exact waiting.ids
    case nextId =>
      rw [State.receive, if_pos awaited]
      cases answer <;> exact waiting.nextId
    case loading =>
      rw [done, State.receive, if_pos awaited]
      cases answer <;> rfl
    case pending =>
      intro id
      rw [done, latest]
      constructor
      · intro impossible
        cases impossible
      · rintro ⟨⟨rfl⟩, absent⟩
        simp at absent
    case settled =>
      intro id isLatest _
      rw [latest] at isLatest
      cases isLatest
      exact ⟨answer, by simp, by simp [awaited], rfl⟩
  · rw [State.receive, if_neg awaited]
    constructor
    case ids => exact waiting.ids
    case nextId => exact waiting.nextId
    case loading => exact waiting.loading
    case pending =>
      intro id
      rw [List.map_append, List.mem_append, not_or]
      constructor
      · intro awaitedNow
        obtain ⟨latest, absent⟩ := (waiting.pending id).mp awaitedNow
        refine ⟨latest, absent, ?_⟩
        rintro same
        rw [List.map_singleton, List.mem_singleton] at same
        exact awaited (same ▸ awaitedNow)
      · rintro ⟨latest, absent, -⟩
        exact (waiting.pending id).mpr ⟨latest, absent⟩
    case settled =>
      intro id latest came
      -- Had the ignored answer been the first with the latest id, it would have been awaited.
      have earlier : id ∈ received.map Answer.id := by
        by_contra absent
        have awaitedNow := (waiting.pending id).mpr ⟨latest, absent⟩
        rw [List.map_append, List.mem_append] at came
        rcases came with came | same
        · exact absent came
        · rw [List.map_singleton, List.mem_singleton] at same
          exact awaited (same ▸ awaitedNow)
      obtain ⟨settler, member, last, id⟩ := waiting.settled id latest earlier
      exact ⟨settler, List.mem_append_left _ member, by simpa [awaited] using last, id⟩

end Waiting

namespace Circuit

/-- The answer that the state takes up when something happens. -/
def appliedAt (circuit : Circuit) (happening : Happening) : List Answer :=
  (circuit.receivedAt happening).filter (circuit.state.pendingId = some ·.id)

/-- The answers that were taken up, oldest first. -/
def applied (world : Surroundings) (circuit : Circuit) (happenings : List Happening) :
    List Answer :=
  circuit.history world happenings appliedAt

@[simp] theorem state_step_event (world : Surroundings) (circuit : Circuit) (event : Event)
    (clipboard : Clipboard) : (circuit.step world (.event event clipboard)).state =
      (circuit.state.handle clipboard event).1 := rfl

@[simp] theorem state_step_take (world : Surroundings) (circuit : Circuit) :
    (circuit.step world .take).state = circuit.state := by
  simp only [step]
  split <;> rfl

@[simp] theorem state_step_start (world : Surroundings) (circuit : Circuit) (number : Nat) :
    (circuit.step world (.start number)).state = circuit.state := rfl

@[simp] theorem state_step_reply (world : Surroundings) (circuit : Circuit) (number : Nat)
    (reply : Reply) : (circuit.step world (.reply number reply)).state = circuit.state := rfl

theorem state_step_receive (world : Surroundings) {circuit : Circuit} {answer : Answer}
    (arrived : circuit.answers.head? = some answer)
    (awaited : circuit.state.pendingId = some answer.id) :
    (circuit.step world .receive).state = circuit.state.apply answer := by
  obtain ⟨rest, answers⟩ := List.head?_eq_some_iff.mp arrived
  simp [step, answers, State.receive, awaited]

/-- Only the answer that is waited for is taken up. -/
theorem appliedAt_cases {circuit : Circuit} {happening : Happening}
    (taken : circuit.appliedAt happening ≠ []) : ∃ answer, happening = .receive ∧
      circuit.appliedAt happening = [answer] ∧ circuit.answers.head? = some answer ∧
      circuit.state.pendingId = some answer.id := by
  cases happening with
  | event event clipboard => exact absurd rfl taken
  | take => exact absurd rfl taken
  | start number => exact absurd rfl taken
  | reply number reply => exact absurd rfl taken
  | receive =>
      cases arrived : circuit.answers.head? with
      | none => simp [appliedAt, receivedAt, arrived] at taken
      | some answer =>
          by_cases awaited : circuit.state.pendingId = some answer.id
          · refine ⟨answer, rfl, ?_, rfl, awaited⟩
            simp [appliedAt, receivedAt, arrived, awaited]
          · simp [appliedAt, receivedAt, arrived, awaited] at taken

theorem hitsAt_of_not_send (circuit : Circuit) {happening : Happening}
    (notSend : happening.isSend = false) : circuit.hitsAt happening = [] := by
  cases happening with
  | event event clipboard =>
      obtain ⟨_, _, _, effects, handled, nothing, -⟩ :=
        circuit.state.handle_of_not_send clipboard (by simpa [Happening.isSend] using notSend)
      rw [hitsAt, handled, nothing]
      rfl
  | take => rfl
  | start number => rfl
  | reply number reply => rfl
  | receive => rfl

theorem hitsAt_send (circuit : Circuit) (clipboard : Clipboard) :
    circuit.hitsAt (.event .send clipboard) = [circuit.state.nextHit] := rfl

end Circuit

theorem Waiting.step {world : Surroundings} {circuit : Circuit} {issued : List Hit}
    {received applied : List Answer} (waiting : Waiting circuit.state issued received applied)
    (fresh : requestId issued.length ∉ received.map Answer.id) (happening : Happening) :
    Waiting (circuit.step world happening).state (issued ++ circuit.hitsAt happening)
      (received ++ circuit.receivedAt happening) (applied ++ circuit.appliedAt happening) := by
  cases happening with
  | event event clipboard =>
      simp only [Circuit.state_step_event, Circuit.receivedAt, Circuit.appliedAt, List.filter_nil,
        List.append_nil]
      by_cases sending : event = .send
      · subst sending
        exact waiting.send fresh
      · obtain ⟨draft, view, error, effects, handled, -⟩ :=
          circuit.state.handle_of_not_send clipboard sending
        rw [Circuit.hitsAt_of_not_send _ (by simpa [Happening.isSend] using sending),
          List.append_nil, handled]
        exact waiting.of_same rfl rfl rfl
  | take => simpa [Circuit.hitsAt, Circuit.receivedAt, Circuit.appliedAt] using waiting
  | start number => simpa [Circuit.hitsAt, Circuit.receivedAt, Circuit.appliedAt] using waiting
  | reply number reply =>
      simpa [Circuit.hitsAt, Circuit.receivedAt, Circuit.appliedAt] using waiting
  | receive =>
      cases arrived : circuit.answers with
      | nil =>
          simpa [Circuit.hitsAt, Circuit.receivedAt, Circuit.appliedAt, Circuit.step, arrived]
            using waiting
      | cons answer rest =>
          simpa [Circuit.hitsAt, Circuit.receivedAt, Circuit.appliedAt, Circuit.step, arrived]
            using waiting.receive answer

namespace Circuit

theorem length_issued (world : Surroundings) (circuit : Circuit) (happenings : List Happening) :
    (circuit.issued world happenings).length = happenings.countP Happening.isSend := by
  induction happenings using List.reverseRecOn with
  | nil => rfl
  | append_singleton earlier happening ih =>
      have now : ((circuit.run world earlier).hitsAt happening).length =
          [happening].countP Happening.isSend := by
        cases sending : happening.isSend with
        | false => simp [hitsAt_of_not_send _ sending, sending]
        | true =>
            obtain ⟨clipboard, rfl⟩ := Happening.eq_send_of_isSend sending
            rfl
      rw [issued, history_concat, List.length_append, List.countP_append, ← ih, ← now]
      rfl

theorem requestId_not_mem_received {world : Surroundings} {circuit : Circuit}
    {moves : List Move} {issued : List Hit} {received applied : List Answer}
    (routed : Routed world circuit moves issued received)
    (waiting : Waiting circuit.state issued received applied)
    (bound : issued.length + 1 < UInt64.size) :
    requestId issued.length ∉ received.map Answer.id := by
  intro came
  have old := routed.underWay_perm.subset
    (List.mem_append_left _ (List.mem_append_right _ came))
  rw [waiting.ids, List.mem_map] at old
  obtain ⟨number, below, same⟩ := old
  rw [List.mem_range] at below
  have equal := requestId_injective (by omega) bound same
  omega

theorem waiting (world : Surroundings) (text : String) (happenings : List Happening)
    (few : happenings.countP Happening.isSend < UInt64.size - 1) :
    Waiting ((ofDraftText text).run world happenings).state
      ((ofDraftText text).issued world happenings) ((ofDraftText text).received world happenings)
      ((ofDraftText text).applied world happenings) := by
  induction happenings using List.reverseRecOn with
  | nil => exact .start text
  | append_singleton earlier happening ih =>
      rw [List.countP_append] at few
      have before := ih (by omega)
      have length := length_issued world (ofDraftText text) earlier
      have fresh := requestId_not_mem_received (routed world text earlier) before (by omega)
      simpa only [run_concat, issued, received, applied, history_concat] using
        before.step fresh happening

end Circuit

end HttpConsole.Console
