import HttpConsole.Console.Session
import Mathlib.Data.List.DropRight

/-! Editing by byte offsets, compared with an editor that keeps the characters before and behind
its cursor. No operation on an edited draft ever fails, and both editors agree on the text and on
the place of the cursor. -/

set_option autoImplicit false

namespace HttpConsole.Console

open HttpConsole.Text (byteLength takeBytes dropBytes IsBoundary slice? findFirst?)

/-- What can be done to a draft. -/
inductive Edit where
  | enter (char : Char)
  | deleteBackward
  | deleteForward
  | left
  | right
  | home
  | lineEnd
  | up
  | down

def Edit.isMove : Edit → Bool
  | .enter _ | .deleteBackward | .deleteForward => false
  | .left | .right | .home | .lineEnd | .up | .down => true

def Draft.perform? (draft : Draft) : Edit → Option Draft
  | .enter char => draft.enter? char
  | .deleteBackward => draft.deleteBackward?
  | .deleteForward => draft.deleteForward?
  | .left => draft.left?
  | .right => draft.right?
  | .home => draft.home?
  | .lineEnd => draft.toLineEnd?
  | .up => draft.up?
  | .down => draft.down?

def Draft.perform (draft : Draft) : Edit → Draft
  | .enter char => draft.enter char
  | .deleteBackward => draft.deleteBackward
  | .deleteForward => draft.deleteForward
  | .left => draft.left
  | .right => draft.right
  | .home => draft.home
  | .lineEnd => draft.toLineEnd
  | .up => draft.up
  | .down => draft.down

/-- The event by which a user asks for an edit. -/
def Edit.event : Edit → Event
  | .enter char => .enterChar char
  | .deleteBackward => .deleteBackward
  | .deleteForward => .deleteForward
  | .left => .left
  | .right => .right
  | .home => .home
  | .lineEnd => .lineEnd
  | .up => .up
  | .down => .down

def State.handleAll (state : State) (clipboard : Clipboard) (edits : List Edit) : State :=
  edits.foldl (fun state edit => (state.handle clipboard edit.event).1) state

def inLine (char : Char) : Bool := char != '\n'

def firstLine (text : List Char) : List Char := text.takeWhile inLine

def behindFirstLine (text : List Char) : List Char := text.dropWhile inLine

def lastLine (text : List Char) : List Char := text.rtakeWhile inLine

def beforeLastLine (text : List Char) : List Char := text.rdropWhile inLine

/-- The characters before a cursor and those behind it. -/
structure Parts where
  before : List Char
  after : List Char

def Draft.parts (draft : Draft) : Parts :=
  { before := takeBytes draft.cursor draft.text.toList
    after := dropBytes draft.cursor draft.text.toList }

namespace Parts

def ofText (text : String) : Parts :=
  { before := firstLine text.toList, after := behindFirstLine text.toList }

def draft (parts : Parts) : Draft :=
  { text := String.ofList (parts.before ++ parts.after), cursor := byteLength parts.before }

/-- The column of the cursor in its line. -/
def column (parts : Parts) : Nat := (lastLine parts.before).length

/-- The editor of characters. A move up or down keeps the column as far as the line that it
reaches is long enough. -/
def perform (parts : Parts) : Edit → Parts
  | .enter char => { parts with before := parts.before ++ [char] }
  | .deleteBackward => { parts with before := parts.before.dropLast }
  | .deleteForward => { parts with after := parts.after.tail }
  | .left =>
      { before := parts.before.dropLast
        after := parts.before.getLast?.toList ++ parts.after }
  | .right =>
      { before := parts.before ++ parts.after.head?.toList
        after := parts.after.tail }
  | .home =>
      { before := beforeLastLine parts.before
        after := lastLine parts.before ++ parts.after }
  | .lineEnd =>
      { before := parts.before ++ firstLine parts.after
        after := behindFirstLine parts.after }
  | .up =>
      if beforeLastLine parts.before = [] then parts
      else
        let upper := (beforeLastLine parts.before).dropLast
        { before := beforeLastLine upper ++ (lastLine upper).take parts.column
          after := (lastLine upper).drop parts.column ++
            '\n' :: (lastLine parts.before ++ parts.after) }
  | .down =>
      match behindFirstLine parts.after with
      | [] => parts
      | feed :: lower =>
          { before := parts.before ++
              (firstLine parts.after ++ feed :: (firstLine lower).take parts.column)
            after := (firstLine lower).drop parts.column ++ behindFirstLine lower }

end Parts

theorem beforeLastLine_append_lastLine (text : List Char) :
    beforeLastLine text ++ lastLine text = text :=
  List.rdropWhile_append_rtakeWhile

theorem firstLine_append_behindFirstLine (text : List Char) :
    firstLine text ++ behindFirstLine text = text :=
  List.takeWhile_append_dropWhile

theorem feed_not_mem_lastLine (text : List Char) : '\n' ∉ lastLine text := by
  intro member
  simpa [inLine] using List.mem_rtakeWhile_imp member

theorem feed_not_mem_firstLine (text : List Char) : '\n' ∉ firstLine text := by
  intro member
  have inside := List.all_eq_true.mp (List.all_takeWhile (l := text)) '\n' member
  simp [inLine] at inside

/-- Only a line feed ends what stands before the last line. -/
private theorem beforeLastLine_cases (text : List Char) :
    beforeLastLine text = [] ∨ ∃ upper, beforeLastLine text = upper ++ ['\n'] := by
  by_cases empty : beforeLastLine text = []
  · exact .inl empty
  · have last := List.rdropWhile_last_not (p := inLine) text empty
    simp only [inLine, bne_iff_ne, ne_eq, Decidable.not_not] at last
    refine .inr ⟨(beforeLastLine text).dropLast, ?_⟩
    rw [← last]
    exact (List.dropLast_append_getLast empty).symm

/-- Only a line feed begins what stands behind the first line. -/
private theorem behindFirstLine_cases (text : List Char) :
    behindFirstLine text = [] ∨ ∃ lower, behindFirstLine text = '\n' :: lower := by
  cases split : behindFirstLine text with
  | nil => exact .inl rfl
  | cons feed lower =>
      have stopped := List.head?_dropWhile_not inLine text
      rw [show text.dropWhile inLine = feed :: lower from split] at stopped
      simp only [List.head?_cons, inLine, bne_eq_false_iff_eq] at stopped
      subst stopped
      exact .inr ⟨lower, rfl⟩

private theorem slice?_front (before after : List Char) :
    slice? 0 (byteLength before) (before ++ after) = some before := by
  simpa using Text.slice?_append [] before after

private theorem slice?_behind (before after : List Char) :
    slice? (byteLength before) (byteLength (before ++ after)) (before ++ after) = some after := by
  simpa using Text.slice?_append before after []

private theorem slice?_lastLine (before after : List Char) :
    slice? (byteLength (beforeLastLine before)) (byteLength before) (before ++ after) =
      some (lastLine before) := by
  have found := Text.slice?_append (beforeLastLine before) (lastLine before) after
  rwa [← Text.byteLength_append, ← List.append_assoc, beforeLastLine_append_lastLine] at found

private theorem lineStart?_append (before after : List Char) :
    lineStart? (byteLength before) (before ++ after) =
      some (byteLength (beforeLastLine before)) := by
  have split := beforeLastLine_append_lastLine before
  have absent := feed_not_mem_lastLine before
  simp only [lineStart?, slice?_front, Option.bind_eq_bind, Option.bind_some, Option.pure_def]
  rcases beforeLastLine_cases before with none | ⟨upper, ends⟩
  · rw [none, List.nil_append] at split
    rw [split] at absent
    rw [none, Text.findLast?_eq_none absent]
    rfl
  · rw [ends, List.append_assoc, List.singleton_append] at split
    have found := Text.findLast?_append_cons upper absent
    rw [split] at found
    rw [found, ends]
    simp

private theorem lineEnd?_append (before after : List Char) :
    lineEnd? (byteLength before) (before ++ after) =
      some (byteLength before + byteLength (firstLine after)) := by
  have split := firstLine_append_behindFirstLine after
  have absent := feed_not_mem_firstLine after
  simp only [lineEnd?, slice?_behind, Option.bind_eq_bind, Option.bind_some, Option.pure_def]
  rcases behindFirstLine_cases after with none | ⟨lower, begins⟩
  · rw [none, List.append_nil] at split
    rw [split] at absent
    rw [split, Text.findFirst?_eq_none absent]
    simp
  · rw [begins] at split
    have found := Text.findFirst?_append_cons absent lower
    rw [split] at found
    rw [found]

private theorem advance?_append (before line after : List Char) (count : Nat) :
    advance? (byteLength before) (byteLength before + byteLength line) count
      (before ++ (line ++ after)) = some (byteLength before + byteLength (line.take count)) := by
  simp [advance?, Text.slice?_append]

private theorem remove?_append (before : List Char) (char : Char) (after : List Char) :
    remove? (byteLength before) (before ++ char :: after) = some (before ++ after) := by
  simp [remove?]

private theorem previous?_draft (parts : Parts) :
    parts.draft.previous? = some (byteLength parts.before.dropLast) := by
  simp [Draft.previous?, Parts.draft, slice?_front]

private theorem deleteBackward?_draft (parts : Parts) :
    parts.draft.deleteBackward? = some (parts.perform .deleteBackward).draft := by
  obtain ⟨before, after⟩ := parts
  rcases List.eq_nil_or_concat before with rfl | ⟨front, char, rfl⟩
  · simp [Draft.deleteBackward?, Parts.draft, Parts.perform]
  · have removed := remove?_append front char after
    have positive := (Char.utf8Size_pos char).ne'
    simp only [List.concat_eq_append, Draft.deleteBackward?, previous?_draft]
    simp [Parts.draft, Parts.perform, removed, positive]

private theorem deleteForward?_draft (parts : Parts) :
    parts.draft.deleteForward? = some (parts.perform .deleteForward).draft := by
  obtain ⟨before, after⟩ := parts
  cases after with
  | nil => simp [Draft.deleteForward?, Parts.draft, Parts.perform]
  | cons char rest =>
      have removed := remove?_append before char rest
      have positive := (Char.utf8Size_pos char).ne'
      simp [Draft.deleteForward?, Parts.draft, Parts.perform, removed, positive]

private theorem left?_draft (parts : Parts) :
    parts.draft.left? = some (parts.perform .left).draft := by
  obtain ⟨before, after⟩ := parts
  rcases List.eq_nil_or_concat before with rfl | ⟨front, char, rfl⟩
  · simp [Draft.left?, Parts.draft, Parts.perform]
  · simp only [List.concat_eq_append, Draft.left?, previous?_draft]
    simp [Parts.draft, Parts.perform]

private theorem right?_draft (parts : Parts) :
    parts.draft.right? = some (parts.perform .right).draft := by
  obtain ⟨before, after⟩ := parts
  cases after with
  | nil => simp [Draft.right?, Parts.draft, Parts.perform]
  | cons char rest =>
      have advanced := advance?_append before (char :: rest) [] 1
      have positive := (Char.utf8Size_pos char).ne'
      simp only [List.append_nil, ← Text.byteLength_append] at advanced
      simp only [Draft.right?, Parts.draft, String.toList_ofList, advanced]
      simp [Parts.perform, positive]

private theorem home?_draft (parts : Parts) :
    parts.draft.home? = some (parts.perform .home).draft := by
  have start := lineStart?_append parts.before parts.after
  have split := beforeLastLine_append_lastLine parts.before
  simp [Draft.home?, Parts.draft, Parts.perform, start, ← List.append_assoc, split]

private theorem toLineEnd?_draft (parts : Parts) :
    parts.draft.toLineEnd? = some (parts.perform .lineEnd).draft := by
  have stop := lineEnd?_append parts.before parts.after
  have split := firstLine_append_behindFirstLine parts.after
  simp [Draft.toLineEnd?, Parts.draft, Parts.perform, stop, split]

/-- A move takes characters from one side of the cursor to the other. -/
theorem move_append (parts : Parts) (edit : Edit) (move : edit.isMove = true) :
    (parts.perform edit).before ++ (parts.perform edit).after = parts.before ++ parts.after := by
  obtain ⟨before, after⟩ := parts
  cases edit with
  | enter char => cases move
  | deleteBackward => cases move
  | deleteForward => cases move
  | left =>
      rcases List.eq_nil_or_concat before with rfl | ⟨front, char, rfl⟩ <;> simp [Parts.perform]
  | right => cases after <;> simp [Parts.perform]
  | home =>
      simp only [Parts.perform, ← List.append_assoc, beforeLastLine_append_lastLine]
  | lineEnd =>
      simp only [Parts.perform, List.append_assoc, firstLine_append_behindFirstLine]
  | up =>
      rcases beforeLastLine_cases before with none | ⟨upper, ends⟩
      · simp [Parts.perform, none]
      · have split := beforeLastLine_append_lastLine before
        rw [ends, List.append_assoc] at split
        simp only [Parts.perform, ends, List.append_eq_nil_iff, List.cons_ne_nil, and_false,
          if_false, List.dropLast_concat]
        rw [List.append_assoc, ← List.append_assoc (List.take _ _), List.take_append_drop,
          ← List.append_assoc, beforeLastLine_append_lastLine, ← List.cons_append,
          ← List.append_assoc]
        exact congrArg (· ++ after) split
  | down =>
      rcases behindFirstLine_cases after with none | ⟨lower, begins⟩
      · simp [Parts.perform, none]
      · have split := firstLine_append_behindFirstLine after
        rw [begins] at split
        simp only [Parts.perform, begins]
        rw [List.append_assoc, List.append_assoc, List.cons_append, ← List.append_assoc
          (List.take _ _), List.take_append_drop, firstLine_append_behindFirstLine, split]

private theorem up?_draft (parts : Parts) :
    parts.draft.up? = some (parts.perform .up).draft := by
  obtain ⟨before, after⟩ := parts
  have start := lineStart?_append before after
  rcases beforeLastLine_cases before with none | ⟨upper, ends⟩
  · simp [Draft.up?, Parts.draft, Parts.perform, start, none]
  · have line := slice?_lastLine before after
    have upperStart := lineStart?_append upper ('\n' :: (lastLine before ++ after))
    have place := advance?_append (beforeLastLine upper) (lastLine upper)
      ('\n' :: (lastLine before ++ after)) (lastLine before).length
    have whole : upper ++ '\n' :: (lastLine before ++ after) = before ++ after := by
      rw [← List.singleton_append, ← List.append_assoc, ← ends, ← List.append_assoc,
        beforeLastLine_append_lastLine]
    rw [← Text.byteLength_append, ← List.append_assoc, beforeLastLine_append_lastLine] at place
    rw [whole] at upperStart place
    have feed := Char.utf8Size_pos '\n'
    -- The line above ends just before the line feed that the cursor's line begins behind.
    have startEq : byteLength (beforeLastLine before) = byteLength upper + '\n'.utf8Size := by
      simp [ends]
    have notFirst : byteLength (beforeLastLine before) ≠ 0 := by omega
    have stop : byteLength (beforeLastLine before) - '\n'.utf8Size = byteLength upper := by omega
    have moved : Parts.perform ⟨before, after⟩ .up =
        { before := beforeLastLine upper ++ (lastLine upper).take (lastLine before).length
          after := (lastLine upper).drop (lastLine before).length ++
            '\n' :: (lastLine before ++ after) } := by
      simp [Parts.perform, Parts.column, ends]
    have text := move_append ⟨before, after⟩ .up rfl
    rw [moved] at text
    rw [moved]
    simp only [Draft.up?, Parts.draft, String.toList_ofList, start, Option.bind_eq_bind,
      Option.bind_some, if_neg notFirst, line, stop, upperStart, place, Option.pure_def, text,
      Text.byteLength_append]

private theorem down?_draft (parts : Parts) :
    parts.draft.down? = some (parts.perform .down).draft := by
  obtain ⟨before, after⟩ := parts
  have stop := lineEnd?_append before after
  have split := firstLine_append_behindFirstLine after
  rcases behindFirstLine_cases after with none | ⟨lower, begins⟩
  · rw [none, List.append_nil] at split
    rw [split, ← Text.byteLength_append] at stop
    simp [Draft.down?, Parts.draft, Parts.perform, stop, none]
  · rw [begins] at split
    have start := lineStart?_append before after
    have line := slice?_lastLine before after
    have upper : byteLength before + byteLength (firstLine after) + '\n'.utf8Size =
        byteLength (before ++ (firstLine after ++ ['\n'])) := by
      simp [Nat.add_assoc]
    have whole : before ++ (firstLine after ++ ['\n']) ++ lower = before ++ after := by
      rw [List.append_assoc, List.append_assoc, List.singleton_append, split]
    have belowEnd := lineEnd?_append (before ++ (firstLine after ++ ['\n'])) lower
    have place := advance?_append (before ++ (firstLine after ++ ['\n'])) (firstLine lower)
      (behindFirstLine lower) (lastLine before).length
    rw [firstLine_append_behindFirstLine] at place
    rw [whole] at belowEnd place
    have notLast : byteLength before + byteLength (firstLine after) ≠
        byteLength (before ++ after) := by
      have feed := Char.utf8Size_pos '\n'
      have length := congrArg byteLength whole
      simp only [Text.byteLength_append, Text.byteLength_cons] at length ⊢
      omega
    have moved : Parts.perform ⟨before, after⟩ .down =
        { before := before ++ (firstLine after ++ ['\n']) ++
            (firstLine lower).take (lastLine before).length
          after := (firstLine lower).drop (lastLine before).length ++ behindFirstLine lower } := by
      simp [Parts.perform, Parts.column, begins]
    have text := move_append ⟨before, after⟩ .down rfl
    rw [moved] at text
    rw [moved]
    simp only [Draft.down?, Parts.draft, String.toList_ofList, stop, Option.bind_eq_bind,
      Option.bind_some, if_neg notLast, start, line, upper, belowEnd, place, Option.pure_def, text]
    rw [← Text.byteLength_append]

private theorem enter?_draft (parts : Parts) (char : Char) :
    parts.draft.enter? char = some (parts.perform (.enter char)).draft := by
  simp [Draft.enter?, Parts.draft, Parts.perform]

/-- No operation fails on a cursor between two characters, and it does what it does to the
characters before and behind the cursor. -/
theorem perform?_draft (parts : Parts) (edit : Edit) :
    parts.draft.perform? edit = some (parts.perform edit).draft := by
  cases edit with
  | enter char => exact enter?_draft parts char
  | deleteBackward => exact deleteBackward?_draft parts
  | deleteForward => exact deleteForward?_draft parts
  | left => exact left?_draft parts
  | right => exact right?_draft parts
  | home => exact home?_draft parts
  | lineEnd => exact toLineEnd?_draft parts
  | up => exact up?_draft parts
  | down => exact down?_draft parts

theorem perform_draft (parts : Parts) (edit : Edit) :
    parts.draft.perform edit = (parts.perform edit).draft := by
  have performed := perform?_draft parts edit
  cases edit <;>
    exact congrArg (Option.getD · parts.draft) performed

theorem parts_draft (parts : Parts) : parts.draft.parts = parts := by
  simp only [Draft.parts, Parts.draft, String.toList_ofList, Text.takeBytes_byteLength_append,
    Text.dropBytes_byteLength_append]

theorem Draft.ofText_eq_draft (text : String) : Draft.ofText text = (Parts.ofText text).draft := by
  have split := firstLine_append_behindFirstLine text.toList
  have absent := feed_not_mem_firstLine text.toList
  have found : (findFirst? '\n' text.toList).getD (byteLength text.toList) =
      byteLength (firstLine text.toList) := by
    rcases behindFirstLine_cases text.toList with none | ⟨lower, begins⟩
    · rw [none, List.append_nil] at split
      rw [split] at absent
      rw [split, Text.findFirst?_eq_none absent]
      rfl
    · rw [begins] at split
      have found := Text.findFirst?_append_cons absent lower
      rw [split] at found
      rw [found]
      rfl
  simp only [Draft.ofText, found, Parts.draft, Parts.ofText, split, String.ofList_toList]

theorem State.handle_edit (state : State) (clipboard : Clipboard) (edit : Edit) :
    state.handle clipboard edit.event = (state.edit (·.perform edit), []) := by
  cases edit <;> rfl

private theorem handleAll_draft (text : String) (clipboard : Clipboard) (edits : List Edit) :
    ((State.ofDraftText text).handleAll clipboard edits).draft =
      (edits.foldl Parts.perform (Parts.ofText text)).draft := by
  induction edits using List.reverseRecOn with
  | nil => exact Draft.ofText_eq_draft text
  | append_singleton earlier edit ih =>
      simp only [State.handleAll, List.foldl_append, List.foldl_cons, List.foldl_nil,
        State.handle_edit, State.edit] at ih ⊢
      rw [ih, perform_draft]

/-- The byte-offset editor refines the editor of characters: after any edits of any saved text the
cursor is between two characters of the text, every operation cuts the text only where that is
possible, and it does to the characters before and behind the cursor what it says. -/
theorem edited_draft_refines_parts (text : String) (clipboard : Clipboard) (edits : List Edit) :
    let draft := ((State.ofDraftText text).handleAll clipboard edits).draft
    draft.cursor ≤ byteLength draft.text.toList ∧
    IsBoundary draft.text.toList draft.cursor ∧
    draft.parts = edits.foldl Parts.perform (Parts.ofText text) ∧
    ∀ edit, draft.perform? edit = some (draft.perform edit) ∧
      (draft.perform edit).parts = draft.parts.perform edit ∧
      (edit.isMove = true → (draft.perform edit).text = draft.text) := by
  intro draft
  have reached : draft = (edits.foldl Parts.perform (Parts.ofText text)).draft :=
    handleAll_draft text clipboard edits
  generalize edits.foldl Parts.perform (Parts.ofText text) = parts at reached ⊢
  rw [reached]
  refine ⟨?_, ⟨parts.before, parts.after, ?_, rfl⟩, parts_draft parts, fun edit => ⟨?_, ?_, ?_⟩⟩
  · simp [Parts.draft]
  · simp [Parts.draft]
  · rw [perform?_draft, perform_draft]
  · rw [perform_draft, parts_draft, parts_draft]
  · intro move
    rw [perform_draft]
    exact congrArg String.ofList (move_append parts edit move)

example : ((State.ofDraftText "aé\nbü").handleAll .working
    [.down, .enter '€', .home, .deleteBackward]).draft = { text := "aébü€", cursor := 3 } := by
  decide +kernel

end HttpConsole.Console
