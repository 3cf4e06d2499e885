import HttpConsole.Proofs.Screen.RowColumn

/-! Moves of the cursor from line to line. They agree with the rows and columns by which the cursor
is drawn: the row changes by one and the column is kept, or is the end of a line that is too short. -/

set_option autoImplicit false

namespace HttpConsole.Console

open HttpConsole.Text (IsBoundary)
open HttpConsole.Screen (rowColumn)

/-- A cursor between two characters of the text, at a row and a column. -/
structure Draft.StandsAt (draft : Draft) (row column : Nat) : Prop where
  boundary : IsBoundary draft.text.toList draft.cursor
  place : rowColumn draft.text draft.cursor = (row, column)

namespace Parts

theorem standsAt (parts : Parts) :
    parts.draft.StandsAt (parts.before.count '\n') parts.column where
  boundary := ⟨parts.before, parts.after, String.toList_ofList, rfl⟩
  place := Screen.rowColumn_append parts.before parts.after

theorem getElem?_lines (parts : Parts) :
    (parts.draft.text.toList.splitOn '\n')[parts.before.count '\n']? = some parts.line := by
  simp only [Parts.draft, String.toList_ofList]
  exact Screen.getElem?_splitOn parts

theorem text_perform (parts : Parts) {edit : Edit} (move : edit.isMove = true) :
    (parts.perform edit).draft.text = parts.draft.text :=
  congrArg String.ofList (move_append parts edit move)

/-- A cursor that is some columns behind the start of a line, or at the end of that line. -/
theorem standsAt_of_before {parts : Parts} {start line : List Char} {column : Nat}
    (starts : lastLine start = []) (oneLine : '\n' ∉ line)
    (before : parts.before = start ++ line.take column) :
    parts.draft.StandsAt (start.count '\n') (min column line.length) := by
  have noFeed : '\n' ∉ line.take column := fun member => oneLine (List.mem_of_mem_take member)
  have row : parts.before.count '\n' = start.count '\n' := by
    rw [before, List.count_append, List.count_eq_zero.mpr noFeed, Nat.add_zero]
  have place : parts.column = min column line.length := by
    rw [Parts.column, before, lastLine_append noFeed, starts, List.nil_append, List.length_take]
  exact row ▸ place ▸ parts.standsAt

end Parts

namespace Draft

variable {draft : Draft} {row column : Nat}

theorem StandsAt.exists_parts (stands : draft.StandsAt row column) : ∃ parts : Parts,
    parts.draft = draft ∧ parts.before.count '\n' = row ∧ parts.column = column := by
  obtain ⟨before, after, text, cursor⟩ := stands.boundary
  obtain ⟨written, place⟩ := draft
  have same : written = String.ofList (before ++ after) := by rw [← text, String.ofList_toList]
  subst same cursor
  have found := stands.place
  rw [Screen.rowColumn_append before after] at found
  obtain ⟨rows, columns⟩ := Prod.mk.inj found
  exact ⟨⟨before, after⟩, rfl, rows, columns⟩

/-- At a row and a column there is one place only. -/
theorem StandsAt.unique {other : Draft} (stands : draft.StandsAt row column)
    (also : other.StandsAt row column) (text : other.text = draft.text) : other = draft := by
  obtain ⟨written, place⟩ := other
  subst text
  have same := Screen.eq_of_rowColumn_eq also.boundary stands.boundary
    (also.place.trans stands.place.symm)
  exact congrArg (Draft.mk draft.text) same

/-- The line that the cursor is in is at least as long as its column. -/
theorem StandsAt.exists_line (stands : draft.StandsAt row column) : ∃ line,
    (draft.text.toList.splitOn '\n')[row]? = some line ∧ column ≤ line.length := by
  have found := Screen.exists_line_at draft.text draft.cursor
  rwa [stands.place] at found

/-! ## Up -/

theorem StandsAt.up?_of_first (stands : draft.StandsAt 0 column) : draft.up? = some draft := by
  obtain ⟨parts, rfl, first, -⟩ := stands.exists_parts
  have moved : parts.perform .up = parts :=
    if_pos (beforeLastLine_of_not_mem (List.count_eq_zero.mp first))
  exact (perform?_draft parts .up).trans (by rw [moved])

/-- From any other row the cursor goes to the row above. -/
theorem StandsAt.exists_up (stands : draft.StandsAt (row + 1) column) : ∃ above moved,
    (draft.text.toList.splitOn '\n')[row]? = some above ∧ draft.up? = some moved ∧
      moved.text = draft.text ∧ moved.StandsAt row (min column above.length) := by
  obtain ⟨⟨before, after⟩, rfl, rows, rfl⟩ := stands.exists_parts
  have feeds : '\n' ∈ before := List.count_pos_iff.mp (rows ▸ Nat.succ_pos row)
  obtain ⟨upper, line, rfl, oneLine⟩ := exists_last_feed feeds
  let parts : Parts := { before := upper ++ '\n' :: line, after := after }
  -- The line above is the last one of what stands before the line feed.
  let above : Parts := { before := upper, after := '\n' :: (line ++ after) }
  have upperRow : upper.count '\n' = row := by
    rw [count_feeds_append_cons upper oneLine] at rows
    exact Nat.succ.inj rows
  have text : above.draft.text = parts.draft.text := by
    simp only [Parts.draft, above, parts, List.append_assoc, List.cons_append]
  have lineAbove : above.line = lastLine upper := List.append_nil _
  have found := above.getElem?_lines
  rw [text, upperRow, lineAbove] at found
  have moved : (parts.perform .up).before =
      beforeLastLine upper ++ (lastLine upper).take parts.column := by
    simp [Parts.perform, parts, beforeLastLine_append_cons upper oneLine]
  have place := Parts.standsAt_of_before (lastLine_beforeLastLine upper)
    (feed_not_mem_lastLine upper) moved
  rw [count_beforeLastLine, upperRow] at place
  exact ⟨_, _, found, perform?_draft parts .up, parts.text_perform rfl, place⟩

/-! ## Down -/

theorem StandsAt.down?_of_last (stands : draft.StandsAt row column)
    (last : row + 1 = (draft.text.toList.splitOn '\n').length) : draft.down? = some draft := by
  obtain ⟨parts, rfl, rfl, -⟩ := stands.exists_parts
  have noFeed : parts.after.count '\n' = 0 := by
    simp only [Parts.draft, String.toList_ofList, Screen.length_splitOn, List.count_append] at last
    omega
  have moved : parts.perform .down = parts := by
    simp only [Parts.perform, behindFirstLine_of_not_mem (List.count_eq_zero.mp noFeed)]
  exact (perform?_draft parts .down).trans (by rw [moved])

/-- From any row with a line below it the cursor goes to the row below. -/
theorem StandsAt.exists_down (stands : draft.StandsAt row column) {below : List Char}
    (next : (draft.text.toList.splitOn '\n')[row + 1]? = some below) : ∃ moved,
    draft.down? = some moved ∧ moved.text = draft.text ∧
      moved.StandsAt (row + 1) (min column below.length) := by
  obtain ⟨⟨before, after⟩, rfl, rfl, rfl⟩ := stands.exists_parts
  have feeds : '\n' ∈ after := by
    obtain ⟨inside, -⟩ := List.getElem?_eq_some_iff.mp next
    simp only [Parts.draft, String.toList_ofList, Screen.length_splitOn, List.count_append] at inside
    exact List.count_pos_iff.mp (by omega)
  obtain ⟨line, lower, rfl, oneLine⟩ := List.eq_append_cons_of_mem feeds
  let parts : Parts := { before := before, after := line ++ '\n' :: lower }
  -- The line below begins behind the line feed that ends the cursor's line.
  let start : Parts := { before := before ++ line ++ ['\n'], after := lower }
  have startRow : start.before.count '\n' = before.count '\n' + 1 := by
    simp only [start, List.count_append, List.count_eq_zero.mpr oneLine, List.count_singleton_self,
      Nat.add_zero]
  have starts : lastLine start.before = [] := lastLine_append_cons _ List.not_mem_nil
  have text : start.draft.text = parts.draft.text := by
    simp only [Parts.draft, start, parts, List.append_assoc, List.singleton_append]
  have lineBelow : start.line = firstLine lower := by
    rw [Parts.line, starts, List.nil_append]
  have found := start.getElem?_lines
  rw [text, startRow, next, lineBelow] at found
  obtain rfl := Option.some.inj found
  have moved : (parts.perform .down).before =
      start.before ++ (firstLine lower).take parts.column := by
    simp [Parts.perform, parts, start, behindFirstLine_append_cons oneLine,
      firstLine_append_cons oneLine]
  have place := Parts.standsAt_of_before starts (feed_not_mem_firstLine lower) moved
  rw [startRow] at place
  exact ⟨_, perform?_draft parts .down, parts.text_perform rfl, place⟩

/-! ## There and back -/

theorem StandsAt.eq_iff {other : Draft} {place : Nat} (stands : draft.StandsAt row column)
    (also : other.StandsAt row place) (text : other.text = draft.text) :
    other = draft ↔ place = column := by
  constructor
  · rintro rfl
    exact congrArg Prod.snd (also.place.symm.trans stands.place)
  · rintro rfl
    exact stands.unique also text

/-- A move down takes a move up back if the line above was long enough, and so the other way. -/
theorem StandsAt.down?_eq_iff {moved : Draft} {place : Nat}
    (stands : draft.StandsAt (row + 1) column) (above : moved.StandsAt row place)
    (text : moved.text = draft.text) (kept : place ≤ column) :
    moved.down? = some draft ↔ place = column := by
  obtain ⟨line, found, long⟩ := stands.exists_line
  obtain ⟨again, down, same, place⟩ := above.exists_down (text ▸ found)
  rw [down, Option.some.injEq, stands.eq_iff place (same.trans text)]
  omega

theorem StandsAt.up?_eq_iff {moved : Draft} {place : Nat}
    (stands : draft.StandsAt row column) (below : moved.StandsAt (row + 1) place)
    (text : moved.text = draft.text) (kept : place ≤ column) :
    moved.up? = some draft ↔ place = column := by
  obtain ⟨line, found, long⟩ := stands.exists_line
  obtain ⟨other, again, otherLine, up, same, place⟩ := below.exists_up
  rw [text, found] at otherLine
  cases otherLine
  rw [up, Option.some.injEq, stands.eq_iff place (same.trans text)]
  omega

end Draft

/-- A cursor at some row and column goes up and down by one row, as far as there are rows, and keeps
the column or goes to the end of a shorter line. It comes back by the opposite move exactly if the
line in between is long enough. At a row and a column there is one place only. -/
theorem vertical_moves_keep_column {draft : Draft} {row column : Nat}
    (stands : draft.StandsAt row column) :
    let lines := draft.text.toList.splitOn '\n'
    row < lines.length ∧
    (row = 0 → draft.up? = some draft) ∧
    (∀ above, 0 < row → lines[row - 1]? = some above → ∃ moved, draft.up? = some moved ∧
      moved.text = draft.text ∧ moved.StandsAt (row - 1) (min column above.length) ∧
      (moved.down? = some draft ↔ column ≤ above.length)) ∧
    (row + 1 = lines.length → draft.down? = some draft) ∧
    (∀ below, lines[row + 1]? = some below → ∃ moved, draft.down? = some moved ∧
      moved.text = draft.text ∧ moved.StandsAt (row + 1) (min column below.length) ∧
      (moved.up? = some draft ↔ column ≤ below.length)) ∧
    ∀ one other : Draft, one.text = draft.text → other.text = draft.text →
      ∀ line place, one.StandsAt line place → other.StandsAt line place → other = one := by
  intro lines
  refine ⟨?_, ?_, ?_, stands.down?_of_last, ?_, ?_⟩
  · obtain ⟨line, found, -⟩ := stands.exists_line
    exact (List.getElem?_eq_some_iff.mp found).1
  · rintro rfl
    exact stands.up?_of_first
  · intro above lower found
    obtain ⟨row, rfl⟩ := Nat.exists_eq_add_one.mpr lower
    obtain ⟨line, moved, foundLine, up, text, place⟩ := stands.exists_up
    obtain rfl := Option.some.inj (foundLine.symm.trans found)
    refine ⟨moved, up, text, place, ?_⟩
    have returns := stands.down?_eq_iff place text (Nat.min_le_left _ _)
    exact returns.trans (by omega)
  · intro below found
    obtain ⟨moved, down, text, place⟩ := stands.exists_down found
    refine ⟨moved, down, text, place, ?_⟩
    have returns := stands.up?_eq_iff place text (Nat.min_le_left _ _)
    exact returns.trans (by omega)
  · intro one other text otherText line place there also
    exact there.unique also (otherText.trans text.symm)

/-- Over a line that is too short a cursor does not come back to its column. -/
theorem vertical_moves_over_short_line :
    let draft : Draft := { text := "aé\nb\nüxy", cursor := 9 }
    draft.StandsAt 2 2 ∧ ∃ moved, draft.up? = some moved ∧ moved.StandsAt 1 1 ∧
      moved.down? ≠ some draft := by
  intro draft
  have stands : draft.StandsAt 2 2 := ⟨by decide +kernel, by decide +kernel⟩
  have above : (draft.text.toList.splitOn '\n')[2 - 1]? = some ['b'] := by decide +kernel
  obtain ⟨-, -, ups, -⟩ := vertical_moves_keep_column stands
  obtain ⟨moved, up, -, place, returns⟩ := ups ['b'] (by decide) above
  exact ⟨stands, moved, up, place, fun back => absurd (returns.mp back) (by decide)⟩

end HttpConsole.Console
