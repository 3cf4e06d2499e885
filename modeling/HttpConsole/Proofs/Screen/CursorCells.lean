import HttpConsole.Proofs.Screen.DraftCursor
import HttpConsole.Proofs.Screen.RowColumn
import HttpConsole.Proofs.Text.Cells

/-! The cursor of the draft beside the text of its line. The column of the cursor is a number of
characters and the text is drawn in cells, so that the cursor is right behind the text before it
exactly if that text takes as many cells as it has characters. -/

set_option autoImplicit false

namespace HttpConsole.Screen

open HttpConsole.Console (Draft)
open HttpConsole.Text (cellCount clusters clusterWidth IsNarrow)

/-! ## Cells of a line -/

theorem length_clusterCells (base : Style) (cluster : List Char) (style : Style) :
    (clusterCells base cluster style).length = clusterWidth cluster := by
  unfold clusterCells
  cases clusterWidth cluster with
  | zero => rfl
  | succ size => simp [blanks]

theorem fit_append {width used : Nat} {front : List (List Char × Style)}
    (fits : used + (front.map fun cluster => clusterWidth cluster.1).sum ≤ width)
    (back : List (List Char × Style)) : fit width used (front ++ back) =
      front ++ fit width (used + (front.map fun cluster => clusterWidth cluster.1).sum) back := by
  induction front generalizing used with
  | nil => rfl
  | cons cluster front ih =>
      rw [List.map_cons, List.sum_cons] at fits
      have rest : used + clusterWidth cluster.1 +
          (front.map fun cluster => clusterWidth cluster.1).sum ≤ width := by omega
      have later := ih rest
      simp only [List.cons_append, fit, if_neg (show ¬ width < clusterWidth cluster.1 by omega),
        if_neg (show ¬ width < used + clusterWidth cluster.1 by omega), later, List.map_cons,
        List.sum_cons, Nat.add_assoc]

theorem lineClusters_plain {text : List Char} (oneLine : '\n' ∉ text) :
    lineClusters (Line.plain (String.ofList text)) =
      (clusters text).map fun cluster => (cluster, Style.plain) := by
  have kept : (clusters text).filter (· != ['\n']) = clusters text := by
    refine List.filter_eq_self.mpr fun cluster member => bne_iff_ne.mpr ?_
    rintro rfl
    apply oneLine
    rw [← Text.clusters_flatten text]
    exact List.mem_flatten_of_mem member (List.mem_singleton_self _)
  by_cases empty : text = []
  · subst empty
    rfl
  · have filled : String.ofList text ≠ "" := fun blank => empty (String.ofList_inj.mp blank)
    simp only [Line.plain, if_neg filled, lineClusters, List.flatMap_singleton,
      String.toList_ofList, kept]

section

variable {width : Nat} {before after : List Char} (base : Style)

theorem lineClusters_append (oneLine : '\n' ∉ before ++ after)
    (apart : clusters (before ++ after) = clusters before ++ clusters after) :
    lineClusters (Line.plain (String.ofList (before ++ after))) =
      lineClusters (Line.plain (String.ofList before)) ++
        lineClusters (Line.plain (String.ofList after)) := by
  rw [List.mem_append, not_or] at oneLine
  rw [lineClusters_plain oneLine.1, lineClusters_plain oneLine.2,
    lineClusters_plain (List.not_mem_append oneLine.1 oneLine.2), apart, List.map_append]

theorem sum_lineClusters (oneLine : '\n' ∉ before) :
    ((lineClusters (Line.plain (String.ofList before))).map
      fun cluster => clusterWidth cluster.1).sum = cellCount before := by
  rw [lineClusters_plain oneLine, List.map_map]
  rfl

theorem fit_plain (oneLine : '\n' ∉ before) (fits : cellCount before ≤ width)
    (back : List (List Char × Style)) :
    fit width 0 (lineClusters (Line.plain (String.ofList before)) ++ back) =
      lineClusters (Line.plain (String.ofList before)) ++ fit width (cellCount before) back := by
  have cells := sum_lineClusters oneLine
  rw [← Nat.zero_add (cellCount before), ← cells] at fits
  rw [fit_append fits back, cells, Nat.zero_add]

theorem lineCells_plain (oneLine : '\n' ∉ before) (fits : cellCount before ≤ width) :
    lineCells width base (Line.plain (String.ofList before)) =
      (lineClusters (Line.plain (String.ofList before))).flatMap fun cluster =>
        clusterCells base cluster.1 cluster.2 := by
  have kept := fit_plain oneLine fits []
  rw [List.append_nil, fit, List.append_nil] at kept
  rw [lineCells, kept]

theorem length_lineCells_plain (oneLine : '\n' ∉ before) (fits : cellCount before ≤ width) :
    (lineCells width base (Line.plain (String.ofList before))).length = cellCount before := by
  rw [lineCells_plain base oneLine fits, List.length_flatMap, ← sum_lineClusters oneLine]
  simp only [length_clusterCells]

/-- The beginning of a line is drawn as it is drawn alone, if no cluster goes on behind it. -/
theorem lineCells_append (oneLine : '\n' ∉ before ++ after)
    (apart : clusters (before ++ after) = clusters before ++ clusters after)
    (fits : cellCount before ≤ width) :
    ∃ rest, lineCells width base (Line.plain (String.ofList (before ++ after))) =
      lineCells width base (Line.plain (String.ofList before)) ++ rest := by
  have front : '\n' ∉ before := fun member => oneLine (List.mem_append_left after member)
  rw [lineCells_plain base front fits, lineCells, lineClusters_append oneLine apart,
    fit_plain front fits, List.flatMap_append]
  exact ⟨_, rfl⟩

end

/-! ## The line of the cursor -/

/-- What is drawn of the line of the cursor before the cursor. -/
def shownBefore (draft : Draft) : List Char :=
  (shownLine draft).take (rowColumn draft.text draft.cursor).2

/-- What is drawn of the line of the cursor behind the cursor. -/
def shownAfter (draft : Draft) : List Char :=
  (shownLine draft).drop (rowColumn draft.text draft.cursor).2

theorem feed_not_mem_shownLine (draft : Draft) : '\n' ∉ shownLine draft := by
  obtain ⟨ending, line, -⟩ := exists_line_eq draft
  intro member
  apply draft.parts.feed_not_mem_line
  rw [line]
  exact List.mem_append_left ending member

/-- All characters before the cursor are drawn, but for a carriage return at the end of the line. -/
theorem shownBefore_eq {draft : Draft} (plain : '\r' ∉ Console.lastLine draft.parts.before) :
    shownBefore draft = Console.lastLine draft.parts.before := by
  obtain ⟨ending, line, ends⟩ := exists_line_eq draft
  have column : (rowColumn draft.text draft.cursor).2 =
      (Console.lastLine draft.parts.before).length := by
    rw [rowColumn_eq]
    rfl
  have long : (Console.lastLine draft.parts.before).length ≤ (shownLine draft).length := by
    rcases ends with rfl | rfl
    · rw [List.append_nil] at line
      rw [← line, Console.Parts.line, List.length_append]
      exact Nat.le_add_right _ _
    · by_contra short
      -- Otherwise the carriage return would be the last character before the cursor.
      have lengths := congrArg List.length line
      rw [Console.Parts.line, List.length_append, List.length_append, List.length_singleton]
        at lengths
      have nothing : Console.firstLine draft.parts.after = [] :=
        List.length_eq_zero_iff.mp (by omega)
      rw [Console.Parts.line, nothing, List.append_nil] at line
      apply plain
      rw [line]
      simp
  have cut := congrArg (List.take (Console.lastLine draft.parts.before).length) line
  rw [Console.Parts.line, List.take_left, List.take_append_of_le_length long] at cut
  rw [shownBefore, column]
  exact cut.symm

/-- The cells of a panel row that come of the text before the cursor. -/
def cellsBefore (area : Area) (draft : Draft) : Row :=
  lineCells (area.width.toNat - panelMargin) .plain (Line.plain (String.ofList (shownBefore draft)))

theorem length_cellsBefore {area : Area} {draft : Draft}
    (room : panelMargin + cellCount (shownBefore draft) ≤ area.width.toNat) :
    (cellsBefore area draft).length = cellCount (shownBefore draft) := by
  have oneLine : '\n' ∉ shownBefore draft := fun member =>
    feed_not_mem_shownLine draft (List.mem_of_mem_take member)
  exact length_lineCells_plain .plain oneLine (by omega)

/-- The panel shows the text before the cursor behind its border, if the cursor is in no cluster. -/
theorem panelRow_shownLine {area : Area} {draft : Draft}
    (room : panelMargin + cellCount (shownBefore draft) ≤ area.width.toNat)
    (apart : clusters (shownLine draft) =
      clusters (shownBefore draft) ++ clusters (shownAfter draft)) :
    ∃ rest, panelRow area.width.toNat (drawLine (area.width.toNat - panelMargin) .plain
      (Line.plain (String.ofList (shownLine draft)))) =
        panelBorder :: blanks 1 .plain ++ cellsBefore area draft ++ rest := by
  have whole : shownBefore draft ++ shownAfter draft = shownLine draft := List.take_append_drop ..
  have oneLine := feed_not_mem_shownLine draft
  have length := length_cellsBefore room
  have fits : cellCount (shownBefore draft) ≤ area.width.toNat - panelMargin := by omega
  rw [← whole] at apart oneLine ⊢
  obtain ⟨rest, cells⟩ := lineCells_append .plain oneLine apart fits
  have front : (panelBorder :: blanks 1 .plain ++ cellsBefore area draft).length ≤
      area.width.toNat := by
    have margin : (panelBorder :: blanks 1 .plain).length = panelMargin := rfl
    rw [List.length_append, margin, length]
    exact room
  change _ = cellsBefore area draft ++ rest at cells
  rw [panelRow, drawLine, cells, List.append_assoc, ← List.append_assoc, List.take_append,
    List.take_of_length_le front]
  exact ⟨_, rfl⟩

/-- The row that the cursor is on begins with the text before the cursor. -/
theorem getElem?_drawDraft_cursor {area : Area} {draft : Draft} (onScreen : area.IsOnScreen)
    (room : panelMargin + cellCount (shownBefore draft) ≤ area.width.toNat)
    (counted : (panelScroll area.height (rowColumn draft.text draft.cursor).1).toNat +
      area.height.toNat ≤ maxCoordinate)
    (apart : clusters (shownLine draft) =
      clusters (shownBefore draft) ++ clusters (shownAfter draft)) :
    ∃ rest, (drawDraft area draft)[(cursorPosition area draft).2.toNat - area.y.toNat]? =
      some (panelBorder :: blanks 1 .plain ++ cellsBefore area draft ++ rest) := by
  let row := (rowColumn draft.text draft.cursor).1
  change (panelScroll area.height row).toNat + area.height.toNat ≤ maxCoordinate at counted
  have down : (cursorPosition area draft).2.toNat = area.y.toNat +
      min (row - (panelScroll area.height row).toNat) (area.height.toNat - 1) :=
    toNat_cursorY onScreen row
  have scrolled : (panelScroll area.height row).toNat =
      min (row + 1 - area.height.toNat) maxCoordinate :=
    toNat_panelScroll onScreen row
  have high := onScreen.height_pos
  have near : row < maxCoordinate + area.height.toNat := by omega
  obtain ⟨low, inView⟩ := row_in_view onScreen near
  have offset : (cursorPosition area draft).2.toNat - area.y.toNat =
      row - (panelScroll area.height row).toNat := by omega
  obtain ⟨rest, drawn⟩ := panelRow_shownLine room apart
  have own := getElem?_drawDraft draft low inView counted
  rw [← String.ofList_toList (s := (Text.lines draft.text)[row]?.getD "")] at own
  rw [offset]
  exact ⟨rest, own.trans (congrArg some drawn)⟩

theorem column_eq_cellCount {draft : Draft}
    (narrow : ∀ char ∈ Console.lastLine draft.parts.before, IsNarrow char) :
    (rowColumn draft.text draft.cursor).2 = cellCount (shownBefore draft) := by
  have plain : '\r' ∉ Console.lastLine draft.parts.before := by
    intro member
    exact absurd (narrow _ member).other (by decide)
  have before := shownBefore_eq plain
  rw [before, Text.cellCount_of_narrow narrow, rowColumn_eq]
  rfl

/-- The cursor is right behind the text before it exactly if that text leaves a column of the panel
and takes as many cells as it has characters; where it has more of these, the last column of the
panel may still stop the cursor at the right place. The text is drawn there unless the cursor is
within a cluster, and narrow characters take a cell each. -/
theorem cursor_behind_text_iff {area : Area} {draft : Draft} (onScreen : area.IsOnScreen)
    (room : panelMargin + cellCount (shownBefore draft) ≤ area.width.toNat) :
    let place := rowColumn draft.text draft.cursor
    let scroll := (panelScroll area.height place.1).toNat
    let cursor := cursorPosition area draft
    let cells := (cellsBefore area draft).length
    (cursor.1.toNat = area.x.toNat + panelMargin + cells ↔
      panelMargin + cells < area.width.toNat ∧
        (place.2 = cells ∨ cells < place.2 ∧ panelMargin + cells + 1 = area.width.toNat)) ∧
    cells = cellCount (shownBefore draft) ∧
    (scroll + area.height.toNat ≤ maxCoordinate →
      clusters (shownLine draft) = clusters (shownBefore draft) ++ clusters (shownAfter draft) →
      ∃ rest, (drawDraft area draft)[cursor.2.toNat - area.y.toNat]? =
        some (panelBorder :: blanks 1 .plain ++ cellsBefore area draft ++ rest)) ∧
    ((∀ char ∈ Console.lastLine draft.parts.before, IsNarrow char) → place.2 = cells) := by
  intro place scroll cursor cells
  have count : cells = cellCount (shownBefore draft) := length_cellsBefore room
  have across : cursor.1.toNat =
      area.x.toNat + min (panelMargin + place.2) (area.width.toNat - 1) :=
    toNat_cursorX onScreen place.2
  have wide := onScreen.width_pos
  refine ⟨?_, count, getElem?_drawDraft_cursor onScreen room, ?_⟩
  · rw [← count] at room
    rw [across]
    constructor
    · intro same
      omega
    · intro behind
      omega
  · intro narrow
    exact (column_eq_cellCount narrow).trans count.symm

theorem cursor_behind_second_line :
    let area : Area := { x := 0, y := 6, width := 20, height := 3 }
    let draft : Draft := { text := "GET x\n?q", cursor := 8 }
    area.IsOnScreen ∧ panelMargin + cellCount (shownBefore draft) ≤ area.width.toNat ∧
      (cursorPosition area draft).1.toNat =
        area.x.toNat + panelMargin + (cellsBefore area draft).length := by
  intro area draft
  have onScreen : area.IsOnScreen := ⟨by decide, by decide, by decide, by decide⟩
  have room : panelMargin + cellCount (shownBefore draft) ≤ area.width.toNat := by decide +kernel
  obtain ⟨behind, cells, -, narrow⟩ := cursor_behind_text_iff onScreen room
  have line : Console.lastLine draft.parts.before = ['?', 'q'] := by decide +kernel
  have each : ∀ char ∈ Console.lastLine draft.parts.before, IsNarrow char := by
    rw [line]
    have mark : IsNarrow '?' := Text.isNarrow_of_ascii (by decide) (by decide)
    have letter : IsNarrow 'q' := Text.isNarrow_of_ascii (by decide) (by decide)
    exact List.forall_mem_cons.mpr ⟨mark, List.forall_mem_singleton.mpr letter⟩
  have left : panelMargin + (cellsBefore area draft).length < area.width.toNat := by
    rw [cells]
    decide +kernel
  exact ⟨onScreen, room, behind.mpr ⟨left, .inl (narrow each)⟩⟩

/-- Behind a wide character the cursor is a cell too far to the left, in the middle of it. -/
theorem cursor_inside_wide_character :
    let area : Area := { x := 0, y := 6, width := 20, height := 3 }
    let draft : Draft := { text := "日", cursor := 3 }
    let row := (rowColumn draft.text draft.cursor).1
    let scroll := (panelScroll area.height row).toNat
    (Text.cut? draft.cursor draft.text.toList).isSome = true ∧
    (scroll ≤ row ∧ row < scroll + area.height.toNat) ∧
    panelMargin + (cellsBefore area draft).length < area.width.toNat ∧
    (drawDraft area draft)[row - scroll]? =
      some (panelBorder :: blanks 1 .plain ++ cellsBefore area draft ++ blanks 16 .plain) ∧
    (cursorPosition area draft).1.toNat ≠
      area.x.toNat + panelMargin + (cellsBefore area draft).length := by
  decide +kernel

end HttpConsole.Screen
