import HttpConsole.Screen.DraftPanel

/-! Where the cursor of the draft is drawn. It is inside the panel in any case, and on the screen row
that shows its line as long as the number of that line can be scrolled to. -/

set_option autoImplicit false

namespace HttpConsole.Screen

open HttpConsole.Console (Draft)

/-! ## Coordinates -/

theorem toNat_coordinate (value : Nat) : (coordinate value).toNat = min value maxCoordinate :=
  UInt16.toNat_ofNat_of_lt' (Nat.lt_of_le_of_lt (Nat.min_le_right _ _) (by decide))

theorem toNat_margin : (UInt16.ofNat panelMargin).toNat = panelMargin := by
  decide

theorem toNat_addCoordinates (left right : UInt16) :
    (addCoordinates left right).toNat = min (left.toNat + right.toNat) maxCoordinate :=
  toNat_coordinate _

theorem toNat_subCoordinates (left right : UInt16) :
    (subCoordinates left right).toNat = left.toNat - right.toNat := by
  have small := left.toNat_lt
  have kept : min (left.toNat - right.toNat) maxCoordinate = left.toNat - right.toNat := by
    unfold maxCoordinate
    omega
  exact (toNat_coordinate _).trans kept

theorem toNat_min (left right : UInt16) : (min left right).toNat = min left.toNat right.toNat := by
  by_cases less : left ≤ right
  · have lessNat := UInt16.le_iff_toNat_le.mp less
    rw [show min left right = left from if_pos less]
    omega
  · have more : ¬ left.toNat ≤ right.toNat := mt UInt16.le_iff_toNat_le.mpr less
    rw [show min left right = right from if_neg less]
    omega

theorem toNat_max (left right : UInt16) : (max left right).toNat = max left.toNat right.toNat := by
  by_cases less : left ≤ right
  · have lessNat := UInt16.le_iff_toNat_le.mp less
    rw [show max left right = right from if_pos less]
    omega
  · have more : ¬ left.toNat ≤ right.toNat := mt UInt16.le_iff_toNat_le.mpr less
    rw [show max left right = left from if_neg less]
    omega

/-- An area of one cell at least, whose last column and last row are coordinates. -/
structure Area.IsOnScreen (area : Area) : Prop where
  width_pos : 0 < area.width.toNat
  height_pos : 0 < area.height.toNat
  right : area.x.toNat + area.width.toNat ≤ maxCoordinate + 1
  bottom : area.y.toNat + area.height.toNat ≤ maxCoordinate + 1

/-- The place is that of a cell of the area. -/
structure Area.Contains (area : Area) (place : UInt16 × UInt16) : Prop where
  left : area.x.toNat ≤ place.1.toNat
  right : place.1.toNat < area.x.toNat + area.width.toNat
  top : area.y.toNat ≤ place.2.toNat
  bottom : place.2.toNat < area.y.toNat + area.height.toNat

section

variable {area : Area} (onScreen : area.IsOnScreen)
include onScreen

theorem toNat_cursorX (column : Nat) : (cursorX area column).toNat =
    area.x.toNat + min (panelMargin + column) (area.width.toNat - 1) := by
  obtain ⟨wide, -, right, -⟩ := onScreen
  simp only [cursorX, toNat_min, toNat_addCoordinates, toNat_subCoordinates, toNat_coordinate,
    toNat_margin, UInt16.toNat_one]
  -- The sums stop at the same number, whichever it is.
  generalize maxCoordinate = most at right ⊢
  omega

theorem toNat_panelScroll (row : Nat) : (panelScroll area.height row).toNat =
    min (row + 1 - area.height.toNat) maxCoordinate := by
  have high := onScreen.height_pos
  rw [panelScroll, toNat_coordinate]
  omega

theorem toNat_cursorY (row : Nat) : (cursorY area row).toNat =
    area.y.toNat + min (row - (panelScroll area.height row).toNat) (area.height.toNat - 1) := by
  obtain ⟨-, high, -, bottom⟩ := onScreen
  simp only [cursorY, toNat_min, toNat_addCoordinates, toNat_subCoordinates, toNat_coordinate,
    UInt16.toNat_one]
  omega

theorem contains_cursorPosition (draft : Draft) : area.Contains (cursorPosition area draft) := by
  have wide := onScreen.width_pos
  have high := onScreen.height_pos
  have across := toNat_cursorX onScreen (rowColumn draft.text draft.cursor).2
  have down := toNat_cursorY onScreen (rowColumn draft.text draft.cursor).1
  constructor <;> simp only [cursorPosition, across, down] <;> omega

theorem row_in_view {row : Nat} (near : row < maxCoordinate + area.height.toNat) :
    (panelScroll area.height row).toNat ≤ row ∧
      row < (panelScroll area.height row).toNat + area.height.toNat := by
  have high := onScreen.height_pos
  rw [toNat_panelScroll onScreen]
  omega

end

/-! ## Rows of the panel -/

/-- A row of the view shows the line that is scrolled to it, and nothing where there is no line. -/
theorem getElem?_drawLines {height scroll row : Nat} (width : Nat) (base : Style)
    (lines : List Line) (low : scroll ≤ row) (high : row < scroll + height)
    (counted : scroll + height ≤ maxCoordinate) :
    (drawLines width height scroll base lines)[row - scroll]? =
      some (drawLine width base (lines[row]?.getD [])) := by
  have place : scroll + (row - scroll) = row := Nat.add_sub_cancel' low
  have inside : row - scroll < height := by omega
  let shown := ((lines.drop scroll).take height).map (drawLine width base)
  have found : shown[row - scroll]? = lines[row]?.map (drawLine width base) := by
    rw [List.getElem?_map, List.getElem?_take_of_lt inside, List.getElem?_drop, place]
  simp only [drawLines, visibleLines, if_pos counted]
  cases line : lines[row]? with
  | some line =>
      rw [line] at found
      obtain ⟨short, -⟩ := List.getElem?_eq_some_iff.mp found
      exact (List.getElem?_append_left short).trans found
  | none =>
      rw [line] at found
      have beyond : shown.length ≤ row - scroll := List.getElem?_eq_none_iff.mp found
      have rest : row - scroll - shown.length < height - shown.length := by omega
      exact (List.getElem?_append_right beyond).trans (List.getElem?_replicate_of_lt rest)

theorem getElem?_drawDraft {area : Area} (draft : Draft) {row : Nat}
    (low : (panelScroll area.height (rowColumn draft.text draft.cursor).1).toNat ≤ row)
    (high : row < (panelScroll area.height (rowColumn draft.text draft.cursor).1).toNat +
      area.height.toNat)
    (counted : (panelScroll area.height (rowColumn draft.text draft.cursor).1).toNat +
      area.height.toNat ≤ maxCoordinate) :
    (drawDraft area draft)[row -
        (panelScroll area.height (rowColumn draft.text draft.cursor).1).toNat]? =
      some (panelRow area.width.toNat (drawLine (area.width.toNat - panelMargin) .plain
        (Line.plain ((Text.lines draft.text)[row]?.getD "")))) := by
  have line : ((Text.lines draft.text)[row]?.map Line.plain).getD [] =
      Line.plain ((Text.lines draft.text)[row]?.getD "") := by
    cases (Text.lines draft.text)[row]? <;> rfl
  simp only [drawDraft, List.getElem?_map, getElem?_drawLines _ _ _ low high counted, line,
    Option.map_some]

/-- The cursor is drawn inside the panel. It is on the row of the screen to which its line is
scrolled, and on the last row of the panel if there are too many lines for that; and it never goes
back to the left while its column grows. The paragraph shows the line there unless the count of its
rows passes the largest coordinate. -/
theorem cursor_inside_panel_on_own_line (area : Area) (onScreen : area.IsOnScreen) (draft : Draft) :
    let row := (rowColumn draft.text draft.cursor).1
    let scroll := (panelScroll area.height row).toNat
    let cursor := cursorPosition area draft
    area.Contains cursor ∧
    (row < maxCoordinate + area.height.toNat →
      scroll ≤ row ∧ row < scroll + area.height.toNat ∧
      cursor.2.toNat = area.y.toNat + row - scroll ∧
      (scroll + area.height.toNat ≤ maxCoordinate →
        (drawDraft area draft)[cursor.2.toNat - area.y.toNat]? =
          some (panelRow area.width.toNat (drawLine (area.width.toNat - panelMargin) .plain
            (Line.plain ((Text.lines draft.text)[row]?.getD "")))))) ∧
    (maxCoordinate + area.height.toNat ≤ row →
      cursor.2.toNat + 1 = area.y.toNat + area.height.toNat) ∧
    ∀ other : Draft, (rowColumn other.text other.cursor).1 = row →
      (rowColumn draft.text draft.cursor).2 ≤ (rowColumn other.text other.cursor).2 →
      cursor.1 ≤ (cursorPosition area other).1 := by
  intro row scroll cursor
  have down : cursor.2.toNat = area.y.toNat + min (row - scroll) (area.height.toNat - 1) :=
    toNat_cursorY onScreen row
  refine ⟨contains_cursorPosition onScreen draft, ?_, ?_, ?_⟩
  · intro near
    obtain ⟨low, high⟩ := row_in_view onScreen near
    have place : cursor.2.toNat = area.y.toNat + row - scroll := by omega
    refine ⟨low, high, place, ?_⟩
    intro counted
    have offset : cursor.2.toNat - area.y.toNat = row - scroll := by omega
    rw [offset]
    exact getElem?_drawDraft draft low high counted
  · intro far
    have most := toNat_panelScroll onScreen row
    have high := onScreen.height_pos
    omega
  · intro other _ further
    have here := toNat_cursorX onScreen (rowColumn draft.text draft.cursor).2
    have there := toNat_cursorX onScreen (rowColumn other.text other.cursor).2
    apply UInt16.le_iff_toNat_le.mpr
    simp only [cursor, cursorPosition, here, there]
    omega

/-- In the last corner of all coordinates the panel shows the second line with the cursor. -/
theorem cursor_inside_last_corner :
    let area : Area := { x := 65516, y := 65535, width := 20, height := 1 }
    let draft : Draft := { text := "a\nbc", cursor := 4 }
    area.IsOnScreen ∧ area.Contains (cursorPosition area draft) ∧
      (cursorPosition area draft).2 = 65535 ∧
      (drawDraft area draft)[0]? = some (panelRow area.width.toNat
        (drawLine (area.width.toNat - panelMargin) .plain (Line.plain "bc"))) := by
  intro area draft
  have onScreen : area.IsOnScreen := ⟨by decide, by decide, by decide, by decide⟩
  obtain ⟨inside, own, -, -⟩ := cursor_inside_panel_on_own_line area onScreen draft
  obtain ⟨-, -, -, drawn⟩ := own (by decide +kernel)
  have last : (cursorPosition area draft).2 = 65535 := by decide +kernel
  have first : (cursorPosition area draft).2.toNat - area.y.toNat = 0 := by decide +kernel
  have line : (Text.lines draft.text)[(rowColumn draft.text draft.cursor).1]?.getD "" = "bc" := by
    decide +kernel
  have shown := drawn (by decide +kernel)
  rw [first, line] at shown
  exact ⟨onScreen, inside, last, shown⟩

end HttpConsole.Screen
