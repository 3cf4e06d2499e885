import HttpConsole.Proofs.Console.Viewing

/-! Moves in a result. The highlight and the view go by one line with every move, and each of them
stops at a bound of its own: the highlight at the last header, the view at the last line. -/

set_option autoImplicit false

namespace HttpConsole.Console

/-- The last line that the highlight gets to. -/
def Viewport.lastHeader (view : Viewport) : Nat :=
  view.lines.length - 3

/-- The furthest that the view is scrolled. -/
def Viewport.lastTop (view : Viewport) : Nat :=
  min (view.shownCount - 1) maxScroll

theorem Viewport.lastHeader_le_lastTop {view : Viewport} (short : view.lastHeader ≤ maxScroll) :
    view.lastHeader ≤ view.lastTop := by
  have headers : view.lastHeader ≤ view.shownCount - 1 := by
    unfold lastHeader shownCount
    cases body : view.lines.getLast? with
    | none =>
        rw [List.getLast?_eq_none_iff.mp body]
        exact Nat.le_refl 0
    | some body =>
        -- All lines but the body are shown, even if nothing is in the body.
        dsimp only
        omega
  exact Nat.le_min.mpr ⟨headers, short⟩

def Turn.IsMove (turn : Turn) : Prop :=
  turn.input = .event .selectNext ∨ turn.input = .event .selectPrevious

namespace State

/-- A state that differs from an earlier one in the highlight and the scrolling of its result, at
most. -/
structure MovedTo (state moved : State) (selected scroll : Nat) : Prop where
  frame : moved = { state with view := moved.view }
  lines : moved.view.lines = state.view.lines
  selected : moved.view.selected = selected
  scroll : moved.view.scroll.toNat = scroll

theorem MovedTo.refl (state : State) :
    state.MovedTo state state.view.selected state.view.scroll.toNat :=
  ⟨rfl, rfl, rfl, rfl⟩

section

variable {state moved : State} {selected scroll : Nat} {turn : Turn}

theorem MovedTo.lastHeader_eq (reached : state.MovedTo moved selected scroll) :
    moved.view.lastHeader = state.view.lastHeader := by
  rw [Viewport.lastHeader, reached.lines, Viewport.lastHeader]

theorem MovedTo.lastTop_eq (reached : state.MovedTo moved selected scroll) :
    moved.view.lastTop = state.view.lastTop := by
  unfold Viewport.lastTop Viewport.shownCount
  rw [reached.lines]

theorem take_of_selectNext (next : turn.input = .event .selectNext) (state : State) :
    state.take turn = state.look Viewport.selectNext := by
  rw [take, next]
  rfl

theorem take_of_selectPrevious (previous : turn.input = .event .selectPrevious) (state : State) :
    state.take turn = state.look Viewport.selectPrevious := by
  rw [take, previous]
  rfl

theorem MovedTo.selectNext (reached : state.MovedTo moved selected scroll)
    (next : turn.input = .event .selectNext) (header : selected ≤ state.view.lastHeader)
    (top : scroll ≤ state.view.lastTop) :
    state.MovedTo (moved.take turn) (min (selected + 1) state.view.lastHeader)
      (min (scroll + 1) state.view.lastTop) := by
  rw [take_of_selectNext next]
  refine ⟨congrArg (look · Viewport.selectNext) reached.frame, reached.lines, ?_, ?_⟩
  · have bound : moved.view.lines.length - 3 = state.view.lastHeader := reached.lastHeader_eq
    simp only [look, Viewport.selectNext, reached.selected]
    split <;> omega
  · have bound : min (moved.view.shownCount - 1) maxScroll = state.view.lastTop := reached.lastTop_eq
    rw [look, Viewport.toNat_scroll_selectNext, reached.scroll, bound]
    split <;> omega

theorem MovedTo.selectPrevious (reached : state.MovedTo moved selected scroll)
    (previous : turn.input = .event .selectPrevious) :
    state.MovedTo (moved.take turn) (selected - 1) (scroll - 1) := by
  rw [take_of_selectPrevious previous]
  refine ⟨congrArg (look · Viewport.selectPrevious) reached.frame, reached.lines, ?_, ?_⟩
  · exact congrArg (· - 1) reached.selected
  · rw [look, Viewport.toNat_scroll_selectPrevious, reached.scroll]

theorem MovedTo.selectPrevious_all {previouses : List Turn}
    (reached : state.MovedTo moved selected scroll)
    (all : ∀ turn ∈ previouses, turn.input = .event .selectPrevious) :
    state.MovedTo (moved.takeAll previouses) (selected - previouses.length)
      (scroll - previouses.length) := by
  induction previouses using List.reverseRecOn with
  | nil => exact reached
  | append_singleton earlier turn ih =>
      obtain ⟨before, last⟩ := List.forall_mem_append.mp all
      rw [takeAll_concat, List.length_append, List.length_singleton, ← Nat.sub_sub, ← Nat.sub_sub]
      exact (ih before).selectPrevious (last turn (List.mem_singleton_self turn))

end

theorem movedTo_takeAll_selectNext {state : State} {nexts : List Turn}
    (all : ∀ turn ∈ nexts, turn.input = .event .selectNext)
    (header : state.view.selected ≤ state.view.lastHeader)
    (top : state.view.scroll.toNat ≤ state.view.lastTop) :
    state.MovedTo (state.takeAll nexts)
      (min (state.view.selected + nexts.length) state.view.lastHeader)
      (min (state.view.scroll.toNat + nexts.length) state.view.lastTop) := by
  induction nexts using List.reverseRecOn with
  | nil =>
      rw [List.length_nil, Nat.add_zero, Nat.add_zero, Nat.min_eq_left header, Nat.min_eq_left top]
      exact .refl state
  | append_singleton earlier turn ih =>
      obtain ⟨before, last⟩ := List.forall_mem_append.mp all
      have moved := (ih before).selectNext (last turn (List.mem_singleton_self turn))
        (Nat.min_le_right _ _) (Nat.min_le_right _ _)
      have further (start limit : Nat) :
          min (min (start + earlier.length) limit + 1) limit =
            min (start + (earlier ++ [turn]).length) limit := by
        rw [List.length_append, List.length_singleton]
        omega
      rwa [further, further, ← takeAll_concat] at moved

/-- From the start of a result the highlight is never further down than the view is scrolled. -/
theorem exists_movedTo_of_isMove {state : State} {moves : List Turn}
    (all : ∀ turn ∈ moves, turn.IsMove) (short : state.view.lastHeader ≤ maxScroll)
    (selected : state.view.selected = 0) (scroll : state.view.scroll.toNat = 0) :
    ∃ selected scroll, state.MovedTo (state.takeAll moves) selected scroll ∧
      selected ≤ state.view.lastHeader ∧ scroll ≤ state.view.lastTop ∧ selected ≤ scroll := by
  have bounds := Viewport.lastHeader_le_lastTop short
  induction moves using List.reverseRecOn with
  | nil => exact ⟨_, _, .refl state, by omega, by omega, by omega⟩
  | append_singleton earlier turn ih =>
      obtain ⟨before, last⟩ := List.forall_mem_append.mp all
      obtain ⟨highlight, start, moved, header, top, order⟩ := ih before
      rw [takeAll_concat]
      rcases last turn (List.mem_singleton_self turn) with next | previous
      · exact ⟨_, _, moved.selectNext next header top, by omega, by omega, by omega⟩
      · exact ⟨_, _, moved.selectPrevious previous, by omega, by omega, by omega⟩

end State

/-- Moves down and then up in closed form, wherever they start inside of the result; and a bound on
both the highlight and the scrolling that holds at all times, whatever the order of the moves. -/
theorem result_moves_saturate (state : State) :
    let last := state.view.lines.length - 3
    let limit := min (state.view.shownCount - 1) 65535
    (∀ nexts previouses : List Turn,
      (∀ turn ∈ nexts, turn.input = .event .selectNext) →
      (∀ turn ∈ previouses, turn.input = .event .selectPrevious) →
      state.view.selected ≤ last → state.view.scroll.toNat ≤ limit →
      state.MovedTo (state.takeAll (nexts ++ previouses))
        (min (state.view.selected + nexts.length) last - previouses.length)
        (min (state.view.scroll.toNat + nexts.length) limit - previouses.length)) ∧
    ∀ moves : List Turn, (∀ turn ∈ moves, turn.IsMove) → last ≤ 65535 →
      state.view.selected = 0 → state.view.scroll.toNat = 0 →
      ∀ earlier, earlier <+: moves → ∃ selected scroll,
        state.MovedTo (state.takeAll earlier) selected scroll ∧
          selected ≤ last ∧ scroll ≤ limit ∧ selected ≤ scroll := by
  intro last limit
  constructor
  · intro nexts previouses allNext allPrevious header top
    rw [State.takeAll, List.foldl_append]
    exact (State.movedTo_takeAll_selectNext allNext header top).selectPrevious_all allPrevious
  · intro moves all short selected scroll earlier within
    have front := fun turn member => all turn (within.subset member)
    exact State.exists_movedTo_of_isMove front short selected scroll

/-- The highlight waits at the last header while the view goes on, and leaves it with the first move
up. -/
theorem result_moves_over_headers :
    let view : Viewport := {
      lines := ["GET https://x/", "", "200 OK", "A : 1", "", "one\ntwo\nthree"] }
    let state : State := { draft := .ofText "", view := view }
    let down : Turn := { input := .event .selectNext }
    let up : Turn := { input := .event .selectPrevious }
    state.MovedTo (state.takeAll (List.replicate 5 down ++ List.replicate 2 up)) 1 3 ∧
      ∃ selected scroll, state.MovedTo (state.takeAll [up, down, up]) selected scroll ∧
        selected ≤ 3 ∧ scroll ≤ 7 ∧ selected ≤ scroll := by
  intro view state down up
  have allDown : ∀ turn ∈ List.replicate 5 down, turn.input = .event .selectNext := by
    intro turn member
    rw [List.eq_of_mem_replicate member]
  have allUp : ∀ turn ∈ List.replicate 2 up, turn.input = .event .selectPrevious := by
    intro turn member
    rw [List.eq_of_mem_replicate member]
  have moves : ∀ turn ∈ [up, down, up, down], turn.IsMove := by
    simp [Turn.IsMove, up, down]
  obtain ⟨downAndUp, inAnyOrder⟩ := result_moves_saturate state
  exact ⟨downAndUp _ _ allDown allUp (by decide) (by decide +kernel),
    inAnyOrder _ moves (by decide) rfl rfl [up, down, up] ⟨[down], rfl⟩⟩

end HttpConsole.Console
