import HttpConsole.Proofs.Console.Turns
import HttpConsole.Screen.ResultView
import Mathlib.Data.List.Induction

/-! How far the highlight and the scrolling get in a result. Moves keep both inside the result that
is in view. A new result is shown with the highlight and the scrolling of the old one, and nothing
else can leave them outside. -/

set_option autoImplicit false

namespace HttpConsole.Screen

/-- As many lines are drawn as the view counts. -/
theorem length_resultLines (view : Console.Viewport) :
    (resultLines view).length = view.shownCount := by
  unfold resultLines Console.Viewport.shownCount
  cases view.lines.getLast? with
  | none => rfl
  | some body => simp

end HttpConsole.Screen

namespace HttpConsole.Exchange

/-- Two blank lines and the body are in every report. -/
theorem Report.length_toLines (report : Report) : report.toLines.length =
    report.requestLines.length + report.responseLines.length + 3 := by
  simp only [toLines, List.length_append, List.length_singleton]
  omega

theorem Report.toLines_ne_nil (report : Report) : report.toLines ≠ [] :=
  List.ne_nil_of_length_pos (by rw [report.length_toLines]; omega)

end HttpConsole.Exchange

namespace HttpConsole.Console

open HttpConsole.Exchange (Report)

theorem State.three_le_length_of_displayed {state : State} {turn : Turn} {lines : List String}
    (displayed : state.displayed? turn = some lines) : 3 ≤ lines.length := by
  unfold State.displayed? at displayed
  split at displayed
  · next report _ _ =>
      obtain ⟨-, shown⟩ := Option.ite_none_right_eq_some.mp displayed
      cases shown
      rw [report.length_toLines]
      omega
  · cases displayed

namespace Viewport

/-- The highlighted line is neither the body nor the blank line before it. -/
def HighlightsHeader (view : Viewport) : Prop :=
  view.lines ≠ [] → view.selected + 3 ≤ view.lines.length

def HighlightsLine (view : Viewport) : Prop :=
  view.lines ≠ [] → view.selected < view.lines.length

/-- The view begins with a line of the result, if the result has any. -/
def ScrollsInside (view : Viewport) : Prop :=
  view.scroll.toNat ≤ view.shownCount - 1

theorem toNat_scrollLimit (view : Viewport) :
    view.scrollLimit.toNat = min (view.shownCount - 1) maxScroll := by
  refine UInt16.toNat_ofNat_of_lt' ?_
  exact Nat.lt_of_le_of_lt (Nat.min_le_right _ _) (by decide)

theorem toNat_scroll_selectPrevious (view : Viewport) :
    view.selectPrevious.scroll.toNat = view.scroll.toNat - 1 := by
  unfold selectPrevious
  split
  · next positive => exact UInt16.toNat_sub_of_le _ _ positive
  · next zero =>
      have least := UInt16.not_lt.mp zero
      rw [UInt16.le_iff_toNat_le] at least
      exact (Nat.sub_eq_zero_of_le (Nat.le_succ_of_le least)).symm ▸ Nat.le_zero.mp least

theorem toNat_scroll_selectNext (view : Viewport) :
    view.selectNext.scroll.toNat =
      if view.scroll.toNat < min (view.shownCount - 1) maxScroll then view.scroll.toNat + 1
      else view.scroll.toNat := by
  have limit := view.toNat_scrollLimit
  by_cases below : view.scroll < view.scrollLimit
  · have bound := view.scrollLimit.toNat_lt
    have less := UInt16.lt_iff_toNat_lt.mp below
    rw [← limit, if_pos less]
    simp only [selectNext, if_pos below]
    rw [UInt16.toNat_add, UInt16.toNat_one]
    exact Nat.mod_eq_of_lt (by omega)
  · have notLess := fun less => below (UInt16.lt_iff_toNat_lt.mpr less)
    rw [← limit, if_neg notLess]
    simp only [selectNext, if_neg below]

/-- A property of views that holds of a blank view and that no move ends. -/
structure KeptByMoves (Holds : Viewport → Prop) : Prop where
  blank : Holds .blank
  selectPrevious : ∀ view, Holds view → Holds view.selectPrevious
  selectNext : ∀ view, Holds view → Holds view.selectNext

theorem keptByMoves_highlightsHeader : KeptByMoves HighlightsHeader where
  blank := fun nonempty => absurd rfl nonempty
  selectPrevious := fun view inside nonempty => by
    have bound := inside nonempty
    simp only [selectPrevious]
    omega
  selectNext := fun view inside nonempty => by
    have bound := inside nonempty
    simp only [selectNext]
    split <;> omega

theorem keptByMoves_highlightsLine : KeptByMoves HighlightsLine where
  blank := fun nonempty => absurd rfl nonempty
  selectPrevious := fun view inside nonempty => by
    have bound := inside nonempty
    simp only [selectPrevious]
    omega
  selectNext := fun view inside nonempty => by
    have bound := inside nonempty
    simp only [selectNext]
    split <;> omega

theorem keptByMoves_scrollsInside : KeptByMoves ScrollsInside where
  blank := Nat.le_refl 0
  selectPrevious := fun view inside => by
    unfold ScrollsInside at inside ⊢
    rw [toNat_scroll_selectPrevious]
    exact Nat.le_trans (Nat.sub_le _ _) inside
  selectNext := fun view inside => by
    have same : view.selectNext.shownCount = view.shownCount := rfl
    unfold ScrollsInside at inside ⊢
    rw [toNat_scroll_selectNext, same]
    split <;> omega

theorem highlightsLine_display (view : Viewport) (lines : List String) :
    (view.display lines).HighlightsLine := by
  intro nonempty
  have positive := List.length_pos_iff.mpr nonempty
  simp only [display] at positive ⊢
  split <;> omega

theorem highlightsHeader_display_iff (view : Viewport) {lines : List String}
    (report : 3 ≤ lines.length) : (view.display lines).HighlightsHeader ↔
      lines.length ≤ view.selected ∨ view.selected + 3 ≤ lines.length := by
  have nonempty : lines ≠ [] := by
    rintro rfl
    simp at report
  simp only [HighlightsHeader, display, ne_eq, nonempty, not_false_eq_true, forall_const]
  split <;> omega

namespace KeptByMoves

variable {Holds : Viewport → Prop}

theorem take (kept : KeptByMoves Holds) {state : State} {turn : Turn} (holds : Holds state.view)
    (shown : ∀ lines, state.displayed? turn = some lines → Holds (state.view.display lines)) :
    Holds (state.take turn).view := by
  rcases state.view_take_cases turn with ⟨lines, displayed, view⟩ | ⟨-, moved⟩
  · rw [view]
    exact shown lines displayed
  · rcases moved with view | view | view | view <;> rw [view]
    · exact holds
    · exact kept.selectPrevious _ holds
    · exact kept.selectNext _ holds
    · exact kept.blank

/-- Such a property holds all the time exactly if every result that comes into view keeps it. -/
theorem throughout_iff (kept : KeptByMoves Holds) (text : String) (turns : List Turn) :
    (∀ earlier, earlier <+: turns → Holds ((State.ofDraftText text).takeAll earlier).view) ↔
      ∀ earlier turn lines, earlier ++ [turn] <+: turns →
        ((State.ofDraftText text).takeAll earlier).displayed? turn = some lines →
        Holds (((State.ofDraftText text).takeAll earlier).view.display lines) := by
  constructor
  · intro holds earlier turn lines within displayed
    have next := holds (earlier ++ [turn]) within
    rw [State.takeAll_concat] at next
    rcases State.view_take_cases _ turn with ⟨others, shown, view⟩ | ⟨nothing, -⟩
    · rw [displayed] at shown
      cases shown
      rwa [view] at next
    · rw [displayed] at nothing
      cases nothing
  · intro shown earlier within
    induction earlier using List.reverseRecOn with
    | nil => exact kept.blank
    | append_singleton earlier turn ih =>
        rw [State.takeAll_concat]
        exact kept.take (ih ((List.prefix_append _ _).trans within))
          fun lines displayed => shown earlier turn lines within displayed

end KeptByMoves

end Viewport

/-- The highlight is on a header line all the time exactly if no result comes into view whose
body, or the blank line before it, stands where the highlight is. It is on some line in any case. -/
theorem highlight_on_header_iff (text : String) (turns : List Turn) :
    let start := State.ofDraftText text
    ((∀ earlier, earlier <+: turns → (start.takeAll earlier).view.HighlightsHeader) ↔
      ∀ earlier turn lines, earlier ++ [turn] <+: turns →
        (start.takeAll earlier).displayed? turn = some lines →
        let selected := (start.takeAll earlier).view.selected
        lines.length ≤ selected ∨ selected + 3 ≤ lines.length) ∧
    (start.takeAll turns).view.HighlightsLine := by
  refine ⟨(Viewport.keptByMoves_highlightsHeader.throughout_iff text turns).trans ?_, ?_⟩
  · refine forall₃_congr fun earlier turn lines => forall₂_congr fun within displayed => ?_
    exact Viewport.highlightsHeader_display_iff _ (State.three_le_length_of_displayed displayed)
  · refine (Viewport.keptByMoves_highlightsLine.throughout_iff text turns).mpr ?_ turns
      List.prefix_rfl
    intro earlier turn lines within displayed
    exact Viewport.highlightsLine_display _ _

/-- The highlight stays on the fifth line when a result comes whose fifth line is its body. -/
theorem highlight_on_body :
    let first : Report := {
      requestLines := ["GET https://x/"], responseLines := ["200 OK", "A : 1", "B : 2"]
      body := "one\ntwo\nthree" }
    let second : Report := {
      requestLines := ["GET https://x/"], responseLines := ["200 OK"], body := "hello" }
    let turns : List Turn :=
      [{ input := .event .send }, { input := .answer (.completed 1 first 7) }] ++
      List.replicate 4 { input := .event .selectNext } ++
      [{ input := .event .send }, { input := .answer (.completed 2 second 7) }]
    let view := ((State.ofDraftText "GET www.example.com").takeAll turns).view
    ¬ view.HighlightsHeader ∧ view.selectedLine? = some "hello" := by
  intro first second turns view
  have selected : view.selected = 4 := by decide +kernel
  have lines : view.lines = ["GET https://x/", "", "200 OK", "", "hello"] := by decide +kernel
  constructor
  · intro inside
    have bound := inside (by rw [lines]; exact List.cons_ne_nil _ _)
    rw [selected, lines] at bound
    exact absurd bound (by decide)
  · rw [Viewport.selectedLine?, selected, lines]
    rfl

/-- What is scrolled to has been inside some result that was in view. -/
theorem exists_scroll_le (text : String) (turns : List Turn) :
    ∃ before, before <+: turns ∧ ((State.ofDraftText text).takeAll turns).view.scroll.toNat ≤
      ((State.ofDraftText text).takeAll before).view.shownCount - 1 := by
  induction turns using List.reverseRecOn with
  | nil => exact ⟨[], List.prefix_rfl, Nat.le_refl 0⟩
  | append_singleton earlier turn ih =>
      obtain ⟨before, within, bound⟩ := ih
      have further := within.trans (List.prefix_append earlier [turn])
      rw [State.takeAll_concat]
      rcases State.view_take_cases _ turn with ⟨lines, -, view⟩ | ⟨-, view | view | view | view⟩
      · exact ⟨before, further, by rw [view]; exact bound⟩
      · exact ⟨before, further, by rw [view]; exact bound⟩
      · refine ⟨before, further, ?_⟩
        rw [view, Viewport.toNat_scroll_selectPrevious]
        exact Nat.le_trans (Nat.sub_le _ _) bound
      · rw [view, Viewport.toNat_scroll_selectNext]
        split
        · next below => exact ⟨earlier, List.prefix_append _ _, by omega⟩
        · exact ⟨before, further, bound⟩
      · exact ⟨before, further, by rw [view]; exact Nat.zero_le _⟩

/-- The view is scrolled past the end of the result at no time exactly if no result comes into view
that ends before the line that the view begins with. -/
theorem scroll_inside_result_iff (text : String) (turns : List Turn) :
    let start := State.ofDraftText text
    ((∀ earlier, earlier <+: turns →
        let state := start.takeAll earlier
        state.view.scroll.toNat ≤ (Screen.resultLines state.snapshot.view).length - 1) ↔
      ∀ earlier turn lines, earlier ++ [turn] <+: turns →
        (start.takeAll earlier).displayed? turn = some lines →
        (start.takeAll earlier).view.scroll.toNat ≤
          ({ lines := lines } : Viewport).shownCount - 1) ∧
    (∀ view, (Screen.resultLines view).length = view.shownCount) ∧
    ∃ before, before <+: turns ∧
      (start.takeAll turns).view.scroll.toNat ≤ (start.takeAll before).view.shownCount - 1 := by
  refine ⟨?_, Screen.length_resultLines, exists_scroll_le text turns⟩
  simp only [Screen.length_resultLines]
  exact Viewport.keptByMoves_scrollsInside.throughout_iff text turns

/-- A result of eight lines is scrolled to its last one when a result of five lines comes. -/
theorem scroll_past_end :
    let report (body : String) : Report := {
      requestLines := ["GET https://x/"], responseLines := ["200 OK"], body := body }
    let turns : List Turn :=
      [{ input := .event .send },
        { input := .answer (.completed 1 (report "one\ntwo\nthree\nfour") 7) }] ++
      List.replicate 7 { input := .event .selectNext } ++
      [{ input := .event .send }, { input := .answer (.completed 2 (report "hello") 7) }]
    let state := (State.ofDraftText "GET www.example.com").takeAll turns
    state.view.scroll.toNat = 7 ∧ (Screen.resultLines state.snapshot.view).length = 5 ∧
      ¬ state.view.scroll.toNat ≤ (Screen.resultLines state.snapshot.view).length - 1 := by
  decide +kernel

end HttpConsole.Console
