import HttpConsole.Proofs.Request.Reading

/-! Token after token, reading covers a text without losing a character: the stretches that are
reported follow each other, and only blanks and comments lie between them. -/

set_option autoImplicit false

namespace HttpConsole.Request

open HttpConsole.Text (byteLength IsBoundary)

/-- The byte offsets between which a reading reports something. -/
def Reading.span : Reading → Nat × Nat
  | .token lexeme _ => (lexeme.start, lexeme.stop)
  | .openQuote start stop => (start, stop)
  | .finished size => (size, size)

/-- The text that a reading leaves. -/
def Reading.rest : Reading → List Char
  | .token _ rest => rest
  | .openQuote _ _ => []
  | .finished _ => []

def Reading.lexeme? : Reading → Option Lexeme
  | .token lexeme _ => some lexeme
  | .openQuote _ _ => none
  | .finished _ => none

/-- The first readings of a text, each of which begins where the one before it has stopped. -/
def readings : Nat → Nat → List Char → List Reading
  | 0, _, _ => []
  | count + 1, offset, text =>
      let reading := readToken offset text
      reading :: readings count reading.span.2 reading.rest

/-- Only blanks and comments stand between two byte offsets of a text. -/
def IsGapBetween (text : List Char) (start stop : Nat) : Prop :=
  ∃ before gap after : List Char, text = before ++ (gap ++ after) ∧
    byteLength before = start ∧ byteLength before + byteLength gap = stop ∧ IsGap gap after

/-- A token stands for the stretch of text it was read from. -/
def Lexeme.IsSpelled (lexeme : Lexeme) (text : List Char) : Prop :=
  ∃ before content after : List Char, text = before ++ (content ++ after) ∧
    byteLength before = lexeme.start ∧ byteLength before + byteLength content = lexeme.stop ∧
    Spells lexeme.token content after

/-- The readings of a text from byte `offset` on, up to the one that finds its end. -/
structure Tiling (text : List Char) (offset : Nat) (readings : List Reading) : Prop where
  finished : ∃ earlier, readings = earlier ++ [.finished (byteLength text)] ∧
    ∀ size, .finished size ∉ earlier
  length_le : offset + readings.length ≤ byteLength text + 1
  within : ∀ reading ∈ readings, offset ≤ reading.span.1 ∧ reading.span.1 ≤ reading.span.2 ∧
    reading.span.2 ≤ byteLength text
  boundaries : ∀ reading ∈ readings,
    IsBoundary text reading.span.1 ∧ IsBoundary text reading.span.2
  ordered : (readings.map Reading.span).Pairwise fun earlier later =>
    earlier.1 < earlier.2 ∧ earlier.2 ≤ later.1
  gaps : ∀ gap ∈ (offset :: readings.map (·.span.2)).zip (readings.map (·.span.1)),
    IsGapBetween text gap.1 gap.2
  tokens : ∀ lexeme rest, .token lexeme rest ∈ readings → lexeme.IsSpelled text
  openQuote : ∀ start stop, .openQuote start stop ∈ readings →
    ∃ earlier before content, readings =
        earlier ++ [.openQuote start stop, .finished (byteLength text)] ∧
      (∀ start stop, .openQuote start stop ∉ earlier) ∧
      text = before ++ quoteMark :: content ∧ byteLength before = start ∧ quoteMark ∉ content

/-- A lexing tells of the readings of a text what a parser has to know. -/
structure Lexing.Lists (lexing : Lexing) (readings : List Reading) : Prop where
  lexemes : lexing.lexemes = readings.filterMap Reading.lexeme?
  ending : ∀ start, lexing.ending = .openQuote start ↔ ∃ stop, .openQuote start stop ∈ readings
  size : .finished lexing.size ∈ readings

private theorem isBoundary_middle (before middle after : List Char) :
    IsBoundary (before ++ (middle ++ after)) (byteLength before + byteLength middle) :=
  ⟨before ++ middle, after, by simp, by simp⟩

private theorem isBoundary_end (text : List Char) : IsBoundary text (byteLength text) :=
  ⟨text, [], by simp, rfl⟩

private theorem byteLength_pos {text : List Char} (notEmpty : text ≠ []) :
    0 < byteLength text := by
  refine Nat.pos_of_ne_zero fun zero => notEmpty ?_
  exact Text.byteLength_eq_zero_iff.mp zero

/-- Nothing but a gap is left. -/
private theorem Tiling.of_gap {consumed gap : List Char} (isGap : IsGap gap []) :
    Tiling (consumed ++ gap) (byteLength consumed) [.finished (byteLength (consumed ++ gap))] where
  finished := ⟨[], rfl, by simp⟩
  length_le := by simp
  within := by simp [Reading.span]
  boundaries := by
    intro reading member
    rw [List.mem_singleton.mp member]
    exact ⟨isBoundary_end _, isBoundary_end _⟩
  ordered := by simp
  gaps := by
    intro stretch member
    simp only [List.map_cons, List.map_nil, List.zip_cons_cons, List.zip_nil_right,
      List.mem_singleton, Reading.span] at member
    subst member
    exact ⟨consumed, gap, [], by simp, rfl, by simp, isGap⟩
  tokens := by simp
  openQuote := by simp

/-- A quote is left open behind a gap. -/
private theorem Tiling.of_openQuote {consumed gap content : List Char}
    (isGap : IsGap gap (quoteMark :: content)) (unclosed : quoteMark ∉ content) :
    Tiling (consumed ++ (gap ++ quoteMark :: content)) (byteLength consumed)
      [.openQuote (byteLength consumed + byteLength gap)
          (byteLength (consumed ++ (gap ++ quoteMark :: content))),
        .finished (byteLength (consumed ++ (gap ++ quoteMark :: content)))] := by
  have start := isBoundary_middle consumed gap (quoteMark :: content)
  have stop := isBoundary_end (consumed ++ (gap ++ quoteMark :: content))
  have positive := byteLength_pos (List.cons_ne_nil quoteMark content)
  have whole : byteLength (consumed ++ (gap ++ quoteMark :: content)) =
      byteLength consumed + byteLength gap + byteLength (quoteMark :: content) := by
    simp only [Text.byteLength_append]; omega
  constructor
  · exact ⟨[_], rfl, by simp⟩
  · simp only [List.length_cons, List.length_nil]; omega
  · intro reading member
    simp only [List.mem_cons, List.not_mem_nil, or_false] at member
    rcases member with rfl | rfl <;> simp only [Reading.span] <;> omega
  · intro reading member
    simp only [List.mem_cons, List.not_mem_nil, or_false] at member
    rcases member with rfl | rfl
    · exact ⟨start, stop⟩
    · exact ⟨stop, stop⟩
  · simp only [List.map_cons, List.map_nil, Reading.span, List.pairwise_pair]
    omega
  · intro stretch member
    simp only [List.map_cons, List.map_nil, Reading.span, List.zip_cons_cons,
      List.zip_nil_right, List.mem_cons, List.not_mem_nil, or_false] at member
    rcases member with rfl | rfl
    · exact ⟨consumed, gap, _, rfl, rfl, rfl, isGap⟩
    · exact ⟨_, [], [], by simp, rfl, by simp, .empty⟩
  · intro lexeme rest member
    simp at member
  · intro first last member
    simp only [List.mem_cons, Reading.openQuote.injEq, List.not_mem_nil, or_false,
      reduceCtorEq] at member
    obtain ⟨rfl, rfl⟩ := member
    exact ⟨[], consumed ++ gap, content, rfl, by simp, by simp, by simp, unclosed⟩

/-- A token stands behind a gap, in front of text that is covered. -/
private theorem Tiling.cons {consumed gap content rest : List Char} {token : Token}
    {later : List Reading} (isGap : IsGap gap (content ++ rest))
    (spells : Spells token content rest)
    (tiling : Tiling (consumed ++ (gap ++ (content ++ rest)))
      (byteLength consumed + byteLength gap + byteLength content) later) :
    Tiling (consumed ++ (gap ++ (content ++ rest))) (byteLength consumed)
      (.token {
        token := token
        start := byteLength consumed + byteLength gap
        stop := byteLength consumed + byteLength gap + byteLength content } rest :: later) := by
  have start := isBoundary_middle consumed gap (content ++ rest)
  have stop := isBoundary_middle (consumed ++ gap) content rest
  simp only [Text.byteLength_append, List.append_assoc] at stop
  have positive := byteLength_pos spells.ne_nil
  have whole : byteLength (consumed ++ (gap ++ (content ++ rest))) =
      byteLength consumed + byteLength gap + byteLength content + byteLength rest := by
    simp only [Text.byteLength_append]; omega
  constructor
  · obtain ⟨earlier, rfl, unfinished⟩ := tiling.finished
    exact ⟨.token _ rest :: earlier, rfl, by simpa using unfinished⟩
  · have length_le := tiling.length_le
    simp only [List.length_cons]; omega
  · intro reading member
    rcases List.mem_cons.mp member with rfl | member
    · simp only [Reading.span]; omega
    · have within := tiling.within reading member
      omega
  · intro reading member
    rcases List.mem_cons.mp member with rfl | member
    · exact ⟨start, stop⟩
    · exact tiling.boundaries reading member
  · refine List.pairwise_cons.mpr ⟨fun span member => ?_, tiling.ordered⟩
    obtain ⟨reading, included, rfl⟩ := List.mem_map.mp member
    have within := tiling.within reading included
    exact ⟨Nat.lt_add_of_pos_right positive, within.1⟩
  · intro stretch member
    simp only [List.map_cons, List.zip_cons_cons] at member
    rcases List.mem_cons.mp member with rfl | member
    · exact ⟨consumed, gap, content ++ rest, rfl, rfl, rfl, isGap⟩
    · exact tiling.gaps stretch member
  · intro lexeme behind member
    rcases List.mem_cons.mp member with same | member
    · cases same
      exact ⟨consumed ++ gap, content, rest, by simp, by simp, by simp, spells⟩
    · exact tiling.tokens lexeme behind member
  · intro first last member
    rcases List.mem_cons.mp member with same | member
    · cases same
    · obtain ⟨earlier, before, behind, rfl, closed, split, begins, unclosed⟩ :=
        tiling.openQuote first last member
      exact ⟨.token _ rest :: earlier, before, behind, rfl, by simpa using closed, split, begins,
        unclosed⟩

private theorem Lexing.Lists.cons {lexing : Lexing} {lexeme : Lexeme} {rest : List Char}
    {later : List Reading} (lists : lexing.Lists later) :
    (lexing.cons lexeme).Lists (.token lexeme rest :: later) where
  lexemes := by simp [Reading.lexeme?, lists.lexemes]
  ending := by simp [lists.ending]
  size := List.mem_cons_of_mem _ lists.size

private theorem exists_tiling (consumed text : List Char) :
    ∃ count, Tiling (consumed ++ text) (byteLength consumed)
        (readings count (byteLength consumed) text) ∧
      (lexFrom (byteLength consumed) text).Lists
        (readings count (byteLength consumed) text) := by
  induction size : text.length using Nat.strongRecOn generalizing consumed text with
  | ind size ih =>
      have reads := readToken_reads (byteLength consumed) text
      generalize read : readToken (byteLength consumed) text = reading at reads
      cases reads with
      | finished isGap =>
          refine ⟨1, ?_, ?_⟩
          · simpa [readings, read] using Tiling.of_gap isGap
          · rw [lexFrom_of_finished read]
            simp only [readings, read]
            exact ⟨by simp [Reading.lexeme?], by simp, by simp⟩
      | @openQuote gap content isGap unclosed =>
          have both : readings 2 (byteLength consumed) (gap ++ quoteMark :: content) =
              [.openQuote (byteLength consumed + byteLength gap)
                (byteLength (consumed ++ (gap ++ quoteMark :: content))),
              .finished (byteLength (consumed ++ (gap ++ quoteMark :: content)))] := by
            simp [readings, read, Reading.span, Reading.rest, readToken, Nat.add_assoc]
          refine ⟨2, both ▸ Tiling.of_openQuote isGap unclosed, ?_⟩
          rw [both, lexFrom_of_openQuote read]
          exact ⟨by simp [Reading.lexeme?], by simp [eq_comm], by simp [Nat.add_assoc]⟩
      | @token gap content rest token isGap spells =>
          have shorter := length_rest_lt read
          have place : byteLength consumed + byteLength gap + byteLength content =
              byteLength (consumed ++ gap ++ content) := by
            simp only [Text.byteLength_append]
          obtain ⟨count, tiling, lists⟩ :=
            ih rest.length (size ▸ shorter) (consumed ++ gap ++ content) rest rfl
          rw [← place] at tiling lists
          refine ⟨count + 1, ?_, ?_⟩
          · simp only [readings, read, Reading.span, Reading.rest]
            exact Tiling.cons isGap spells (by simpa only [List.append_assoc] using tiling)
          · rw [lexFrom_of_token read]
            simp only [readings, read, Reading.span, Reading.rest]
            exact lists.cons

/-- A text is read up to its end by finitely many readings, and nothing of it is lost. -/
theorem readings_tile_text (text : String) :
    ∃ count, Tiling text.toList 0 (readings count 0 text.toList) ∧
      (lex text).Lists (readings count 0 text.toList) := by
  simpa [lex] using exists_tiling [] text.toList

end HttpConsole.Request
