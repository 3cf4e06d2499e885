import HttpConsole.Proofs.Console.Editing
import HttpConsole.Screen.DraftPanel
import Mathlib.Data.Prod.Lex

/-! Rows and columns of a text. The row of an offset is the number of the line that it is in, counted
in line feeds, and its column is how many characters of that line are before it. Of two offsets the
later one has the greater row, or the greater column in the same row. -/

set_option autoImplicit false

namespace HttpConsole.Console

/-! ## First and last lines -/

theorem lastLine_append {line : List Char} (oneLine : '\n' ∉ line) (text : List Char) :
    lastLine (text ++ line) = lastLine text ++ line := by
  induction line using List.reverseRecOn with
  | nil => rw [List.append_nil, List.append_nil]
  | append_singleton line char ih =>
      rw [List.mem_append, not_or, List.mem_singleton] at oneLine
      have inside : inLine char = true := bne_iff_ne.mpr (Ne.symm oneLine.2)
      rw [← List.append_assoc, ← List.append_assoc, lastLine, List.rtakeWhile_concat,
        if_pos inside]
      exact congrArg (· ++ [char]) (ih oneLine.1)

theorem lastLine_of_not_mem {line : List Char} (oneLine : '\n' ∉ line) : lastLine line = line :=
  lastLine_append oneLine []

theorem lastLine_append_cons (text : List Char) {line : List Char} (oneLine : '\n' ∉ line) :
    lastLine (text ++ '\n' :: line) = line := by
  have ended : lastLine (text ++ ['\n']) = [] := List.rtakeWhile_concat_neg _ _ _ (by decide)
  rw [List.append_cons, lastLine_append oneLine, ended, List.nil_append]

theorem beforeLastLine_of_not_mem {line : List Char} (oneLine : '\n' ∉ line) :
    beforeLastLine line = [] := by
  have whole := beforeLastLine_append_lastLine line
  rw [lastLine_of_not_mem oneLine] at whole
  exact List.append_left_eq_self.mp whole

theorem beforeLastLine_append_cons (text : List Char) {line : List Char} (oneLine : '\n' ∉ line) :
    beforeLastLine (text ++ '\n' :: line) = text ++ ['\n'] := by
  have whole := beforeLastLine_append_lastLine (text ++ '\n' :: line)
  rw [lastLine_append_cons text oneLine] at whole
  exact List.append_cancel_right (whole.trans (List.append_cons text '\n' line))

theorem count_feeds_append_cons (text : List Char) {line : List Char} (oneLine : '\n' ∉ line) :
    (text ++ '\n' :: line).count '\n' = text.count '\n' + 1 := by
  rw [List.count_append, List.count_cons_self, List.count_eq_zero.mpr oneLine]

theorem inLine_of_not_mem {line : List Char} (oneLine : '\n' ∉ line) :
    ∀ char ∈ line, inLine char = true := by
  intro char member
  apply bne_iff_ne.mpr
  rintro rfl
  exact oneLine member

theorem firstLine_of_not_mem {line : List Char} (oneLine : '\n' ∉ line) :
    firstLine line = line :=
  List.takeWhile_eq_self_iff.mpr (inLine_of_not_mem oneLine)

theorem firstLine_append_cons {line : List Char} (oneLine : '\n' ∉ line) (text : List Char) :
    firstLine (line ++ '\n' :: text) = line := by
  have ended : firstLine ('\n' :: text) = [] := rfl
  rw [firstLine, List.takeWhile_append_of_pos (inLine_of_not_mem oneLine), ← firstLine, ended,
    List.append_nil]

theorem behindFirstLine_of_not_mem {line : List Char} (oneLine : '\n' ∉ line) :
    behindFirstLine line = [] := by
  have whole := firstLine_append_behindFirstLine line
  rw [firstLine_of_not_mem oneLine] at whole
  exact List.append_right_eq_self.mp whole

theorem behindFirstLine_append_cons {line : List Char} (oneLine : '\n' ∉ line)
    (text : List Char) : behindFirstLine (line ++ '\n' :: text) = '\n' :: text := by
  have whole := firstLine_append_behindFirstLine (line ++ '\n' :: text)
  rw [firstLine_append_cons oneLine] at whole
  exact List.append_cancel_left whole

theorem exists_last_feed {text : List Char} (feeds : '\n' ∈ text) :
    ∃ upper line, text = upper ++ '\n' :: line ∧ '\n' ∉ line := by
  obtain ⟨line, upper, split, oneLine⟩ := List.eq_append_cons_of_mem (List.mem_reverse.mpr feeds)
  refine ⟨upper.reverse, line.reverse, ?_, ?_⟩
  · rw [← List.reverse_reverse text, split]
    simp
  · rwa [List.mem_reverse]

theorem lastLine_beforeLastLine (text : List Char) : lastLine (beforeLastLine text) = [] := by
  by_cases feeds : '\n' ∈ text
  · obtain ⟨upper, line, rfl, oneLine⟩ := exists_last_feed feeds
    rw [beforeLastLine_append_cons upper oneLine]
    exact lastLine_append_cons upper List.not_mem_nil
  · rw [beforeLastLine_of_not_mem feeds]
    rfl

theorem count_beforeLastLine (text : List Char) :
    (beforeLastLine text).count '\n' = text.count '\n' := by
  have whole := congrArg (List.count '\n') (beforeLastLine_append_lastLine text)
  rwa [List.count_append, List.count_eq_zero.mpr (feed_not_mem_lastLine text), Nat.add_zero]
    at whole

/-- The line that the cursor is in. -/
def Parts.line (parts : Parts) : List Char :=
  lastLine parts.before ++ firstLine parts.after

theorem Parts.feed_not_mem_line (parts : Parts) : '\n' ∉ parts.line :=
  List.not_mem_append (feed_not_mem_lastLine parts.before) (feed_not_mem_firstLine parts.after)

end HttpConsole.Console

namespace HttpConsole.Screen

open HttpConsole.Console
open HttpConsole.Text (byteLength IsBoundary)

/-! ## Rows and columns -/

theorem rowColumn_eq (draft : Draft) : rowColumn draft.text draft.cursor =
    (draft.parts.before.count '\n', draft.parts.column) := by
  have same : (draft.parts.before.reverse.takeWhile (· != '\n')).length = draft.parts.column :=
    List.length_reverse.symm
  exact Prod.ext rfl same

theorem rowColumn_append (before after : List Char) :
    rowColumn (String.ofList (before ++ after)) (byteLength before) =
      (before.count '\n', (lastLine before).length) := by
  have parts := parts_draft { before := before, after := after }
  have found := rowColumn_eq (Parts.draft { before := before, after := after })
  rwa [parts] at found

/-- A later offset is in a later row, or in a later column of the same row. -/
theorem rowColumn_lt {text : String} {place further : Nat}
    (boundary : IsBoundary text.toList place) (furtherBoundary : IsBoundary text.toList further)
    (less : place < further) :
    (rowColumn text place).1 < (rowColumn text further).1 ∨
      (rowColumn text place).1 = (rowColumn text further).1 ∧
        (rowColumn text place).2 < (rowColumn text further).2 := by
  obtain ⟨before, after, parts, rfl⟩ := boundary
  obtain ⟨longer, behind, furtherParts, rfl⟩ := furtherBoundary
  have together : before ++ after = longer ++ behind := parts.symm.trans furtherParts
  obtain ⟨between, rfl, rfl⟩ : ∃ between, longer = before ++ between ∧
      after = between ++ behind := by
    rcases List.append_eq_append_iff.mp together with ⟨between, grown, rest⟩ |
      ⟨between, grown, -⟩
    · exact ⟨between, grown, rest⟩
    · rw [grown, Text.byteLength_append] at less
      omega
  have rowColumn_place := rowColumn_append before (between ++ behind)
  have rowColumn_further := rowColumn_append (before ++ between) behind
  rw [← parts, String.ofList_toList] at rowColumn_place
  rw [← furtherParts, String.ofList_toList] at rowColumn_further
  rw [rowColumn_place, rowColumn_further, List.count_append]
  by_cases feeds : '\n' ∈ between
  · have some := List.count_pos_iff.mpr feeds
    exact .inl (by omega)
  · have none := List.count_eq_zero.mpr feeds
    have nonempty : 0 < between.length := by
      refine List.length_pos_iff.mpr ?_
      rintro rfl
      simp at less
    rw [lastLine_append feeds, List.length_append]
    exact .inr ⟨by omega, by omega⟩

/-- No two offsets have the same row and the same column. -/
theorem eq_of_rowColumn_eq {text : String} {place other : Nat}
    (boundary : IsBoundary text.toList place) (otherBoundary : IsBoundary text.toList other)
    (same : rowColumn text place = rowColumn text other) : place = other := by
  rcases Nat.lt_trichotomy place other with less | equal | greater
  · have ordered := rowColumn_lt boundary otherBoundary less
    rw [same] at ordered
    omega
  · exact equal
  · have ordered := rowColumn_lt otherBoundary boundary greater
    rw [same] at ordered
    omega

theorem lt_iff_rowColumn_lt {text : String} {place other : Nat}
    (boundary : IsBoundary text.toList place) (otherBoundary : IsBoundary text.toList other) :
    place < other ↔ toLex (rowColumn text place) < toLex (rowColumn text other) := by
  rw [Prod.Lex.toLex_lt_toLex]
  constructor
  · exact rowColumn_lt boundary otherBoundary
  · intro less
    refine Nat.lt_of_not_le fun notLess => ?_
    rcases Nat.lt_or_eq_of_le notLess with greater | rfl
    · have ordered := rowColumn_lt otherBoundary boundary greater
      omega
    · omega

/-! ## Lines -/

theorem length_splitOn (text : List Char) :
    (text.splitOn '\n').length = text.count '\n' + 1 := by
  induction text with
  | nil => rfl
  | cons char rest ih =>
      rw [List.splitOn_cons_eq_if_modifyHead, List.count_cons]
      split
      · rw [List.length_cons, ih]
      · rw [List.length_modifyHead, ih, Nat.add_zero]

private theorem getElem?_zero_splitOn {line : List Char} (oneLine : '\n' ∉ line)
    (after : List Char) : ((line ++ after).splitOn '\n')[0]? = some (line ++ firstLine after) := by
  by_cases feeds : '\n' ∈ after
  · obtain ⟨front, lower, rfl, absent⟩ := List.eq_append_cons_of_mem feeds
    have whole := List.not_mem_append oneLine absent
    rw [firstLine_append_cons absent, ← List.append_assoc,
      List.splitOn_append_cons_self_of_not_mem whole]
    rfl
  · have whole := List.not_mem_append oneLine feeds
    rw [firstLine_of_not_mem feeds, List.splitOn_eq_singleton whole]
    rfl

/-- The line that the cursor is in stands at the row of the cursor. -/
theorem getElem?_splitOn (parts : Parts) :
    ((parts.before ++ parts.after).splitOn '\n')[parts.before.count '\n']? = some parts.line := by
  obtain ⟨before, after⟩ := parts
  dsimp only [Parts.line]
  by_cases feeds : '\n' ∈ before
  · obtain ⟨upper, line, rfl, oneLine⟩ := exists_last_feed feeds
    have row : (upper ++ '\n' :: line).count '\n' = (upper.splitOn '\n').length :=
      (count_feeds_append_cons upper oneLine).trans (length_splitOn upper).symm
    rw [row, lastLine_append_cons upper oneLine, List.append_assoc, List.cons_append,
      List.splitOn_append_cons_self, List.getElem?_append_right (Nat.le_refl _), Nat.sub_self]
    exact getElem?_zero_splitOn oneLine after
  · rw [lastLine_of_not_mem feeds, List.count_eq_zero.mpr feeds]
    exact getElem?_zero_splitOn feeds after

/-- At every offset there is a line at the row, and it is at least as long as the column. -/
theorem exists_line_at (text : String) (offset : Nat) : ∃ line,
    (text.toList.splitOn '\n')[(rowColumn text offset).1]? = some line ∧
      (rowColumn text offset).2 ≤ line.length := by
  let draft : Draft := { text := text, cursor := offset }
  have whole : draft.parts.before ++ draft.parts.after = text.toList :=
    Text.takeBytes_append_dropBytes offset text.toList
  have place : rowColumn text offset = (draft.parts.before.count '\n', draft.parts.column) :=
    rowColumn_eq draft
  have found := getElem?_splitOn draft.parts
  rw [whole] at found
  rw [place]
  refine ⟨draft.parts.line, found, ?_⟩
  rw [Parts.column, Parts.line, List.length_append]
  exact Nat.le_add_right _ _

/-- Of two places between characters the later one has the greater row, or the greater column in the
same row. The row is that of a line of the text, and the column is inside of this line or at its
end. -/
theorem rows_and_columns_order_places (text : String) :
    (∀ place other, IsBoundary text.toList place → IsBoundary text.toList other →
      (place < other ↔ toLex (rowColumn text place) < toLex (rowColumn text other)) ∧
      (place = other ↔ rowColumn text place = rowColumn text other)) ∧
    ∀ offset, (rowColumn text offset).1 ≤ text.toList.count '\n' ∧ ∃ line,
      (text.toList.splitOn '\n')[(rowColumn text offset).1]? = some line ∧
        (rowColumn text offset).2 ≤ line.length := by
  refine ⟨fun place other boundary otherBoundary => ⟨?_, ?_⟩, fun offset => ?_⟩
  · exact lt_iff_rowColumn_lt boundary otherBoundary
  · exact ⟨congrArg (rowColumn text), eq_of_rowColumn_eq boundary otherBoundary⟩
  · obtain ⟨line, found, inside⟩ := exists_line_at text offset
    obtain ⟨row, -⟩ := List.getElem?_eq_some_iff.mp found
    rw [length_splitOn] at row
    exact ⟨Nat.le_of_lt_succ row, line, found, inside⟩

/-- The end of a line with a character of two bytes, and the empty line below it. -/
theorem rows_and_columns_around_feed :
    let text := "aé\n\nü"
    IsBoundary text.toList 3 ∧ IsBoundary text.toList 4 ∧
      rowColumn text 3 = (0, 2) ∧ rowColumn text 4 = (1, 0) ∧
      toLex (rowColumn text 3) < toLex (rowColumn text 4) := by
  intro text
  have lineEnd : IsBoundary text.toList 3 := by decide +kernel
  have empty : IsBoundary text.toList 4 := by decide +kernel
  obtain ⟨order, -⟩ := (rows_and_columns_order_places text).1 3 4 lineEnd empty
  exact ⟨lineEnd, empty, by decide +kernel, by decide +kernel, order.mp (by decide)⟩

/-! ## Lines without their ends -/

private theorem drop_linesFrom (current upper rest : List Char) :
    (Text.linesFrom current (upper ++ '\n' :: rest)).drop (upper.count '\n' + 1) =
      Text.linesFrom [] rest := by
  induction upper generalizing current with
  | nil => rfl
  | cons char upper ih =>
      rw [List.cons_append, Text.linesFrom, List.count_cons]
      by_cases feed : char = '\n'
      · subst feed
        exact ih []
      · simpa [feed] using ih (char :: current)

private theorem linesFrom_line {line : List Char} (oneLine : '\n' ∉ line)
    (current rest : List Char) :
    Text.linesFrom current (line ++ rest) = Text.linesFrom (line.reverse ++ current) rest := by
  induction line generalizing current with
  | nil => rfl
  | cons char line ih =>
      obtain ⟨different, absent⟩ := List.ne_and_not_mem_of_not_mem_cons oneLine
      have later := ih absent (char :: current)
      simpa [Text.linesFrom, different.symm] using later

private theorem getElem?_zero_linesFrom {line : List Char} (oneLine : '\n' ∉ line)
    (after : List Char) : ((Text.linesFrom [] (line ++ after))[0]?).getD [] =
      if '\n' ∈ after then (Text.dropReturn (line ++ firstLine after).reverse).reverse
      else line ++ firstLine after := by
  by_cases feeds : '\n' ∈ after
  · rw [if_pos feeds]
    obtain ⟨front, lower, rfl, absent⟩ := List.eq_append_cons_of_mem feeds
    have whole := List.not_mem_append oneLine absent
    rw [firstLine_append_cons absent, ← List.append_assoc, linesFrom_line whole,
      List.append_nil, Text.linesFrom, if_pos rfl]
    rfl
  · rw [if_neg feeds]
    have whole := List.not_mem_append oneLine feeds
    have ended := linesFrom_line whole [] []
    rw [List.append_nil, List.append_nil] at ended
    rw [firstLine_of_not_mem feeds, ended]
    generalize line ++ after = text
    cases text <;> simp [Text.linesFrom]

/-- The line that the cursor is in is drawn at the row of the cursor, without the carriage return of
its end. -/
theorem getElem?_linesFrom (parts : Parts) :
    ((Text.linesFrom [] (parts.before ++ parts.after))[parts.before.count '\n']?).getD [] =
      if '\n' ∈ parts.after then (Text.dropReturn parts.line.reverse).reverse
      else parts.line := by
  obtain ⟨before, after⟩ := parts
  dsimp only [Parts.line]
  by_cases feeds : '\n' ∈ before
  · obtain ⟨upper, line, rfl, oneLine⟩ := exists_last_feed feeds
    have lines := drop_linesFrom [] upper (line ++ after)
    have place := congrArg (·[0]?) lines
    rw [List.getElem?_drop, Nat.add_zero] at place
    rw [count_feeds_append_cons upper oneLine, lastLine_append_cons upper oneLine, List.append_assoc,
      List.cons_append, place]
    exact getElem?_zero_linesFrom oneLine after
  · rw [lastLine_of_not_mem feeds, List.count_eq_zero.mpr feeds]
    exact getElem?_zero_linesFrom feeds after

/-- What is drawn of the line that the cursor is in. -/
def shownLine (draft : Draft) : List Char :=
  ((Text.lines draft.text)[(rowColumn draft.text draft.cursor).1]?.getD "").toList

theorem exists_line_eq (draft : Draft) : ∃ ending, draft.parts.line = shownLine draft ++ ending ∧
    (ending = [] ∨ ending = ['\r']) := by
  have whole : draft.parts.before ++ draft.parts.after = draft.text.toList :=
    Text.takeBytes_append_dropBytes draft.cursor draft.text.toList
  have drawn := getElem?_linesFrom draft.parts
  have shown : shownLine draft =
      ((Text.linesFrom [] draft.text.toList)[draft.parts.before.count '\n']?).getD [] := by
    rw [shownLine, rowColumn_eq, Text.lines, List.getElem?_map]
    cases (Text.linesFrom [] draft.text.toList)[draft.parts.before.count '\n']? <;> simp
  rw [shown, ← whole, drawn]
  by_cases feeds : '\n' ∈ draft.parts.after
  · rw [if_pos feeds]
    cases backwards : draft.parts.line.reverse with
    | nil => exact ⟨[], List.reverse_eq_nil_iff.mp backwards, .inl rfl⟩
    | cons last front =>
        have forwards : draft.parts.line = front.reverse ++ [last] := by
          rw [← List.reverse_reverse draft.parts.line, backwards, List.reverse_cons]
        by_cases feed : last = '\r'
        · subst feed
          exact ⟨['\r'], forwards, .inr rfl⟩
        · refine ⟨[], ?_, .inl rfl⟩
          rw [List.append_nil, forwards, ← List.reverse_cons]
          unfold Text.dropReturn
          split
          · next same => exact absurd (List.cons.inj same).1 feed
          · rfl
  · rw [if_neg feeds]
    exact ⟨[], (List.append_nil _).symm, .inl rfl⟩

end HttpConsole.Screen
