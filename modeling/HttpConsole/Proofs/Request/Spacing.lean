import HttpConsole.Proofs.Request.ErrorPlace
import HttpConsole.Proofs.Request.Tiling

/-! Blanks, line ends and comments carry no meaning. What a text is read as depends on its tokens and
on whether a quote stays open, and neither depends on what the gaps between the tokens are made of. -/

set_option autoImplicit false

namespace HttpConsole.Request

open HttpConsole.Text (byteLength takeBytes dropBytes)

/-- Lexings from which a parser reads the same. Only the offsets of their tokens may differ. -/
structure Lexing.SameTokens (left right : Lexing) : Prop where
  tokens : left.tokens = right.tokens
  complete : left.ending = .complete ↔ right.ending = .complete

/-- Outcomes of reading a request that are the same, apart from the offset of an error. -/
def SameOutcome (left right : Except SyntaxError Request) : Prop :=
  left.mapError (·.fault) = right.mapError (·.fault)

namespace Lexing.SameTokens

variable {left right : Lexing}

private theorem fault_endError (same : left.SameTokens right) (slot : Slot) :
    (left.endError slot).fault = (right.endError slot).fault := by
  have complete := same.complete
  unfold endError
  cases leftEnds : left.ending with
  | complete =>
      cases rightEnds : right.ending with
      | complete => rfl
      | openQuote start => simp [leftEnds, rightEnds] at complete
  | openQuote start =>
      cases rightEnds : right.ending with
      | complete => simp [leftEnds, rightEnds] at complete
      | openQuote start => rfl

private theorem fault_endError? (same : left.SameTokens right) (place : Place) :
    (place.endError? left).map (·.fault) = (place.endError? right).map (·.fault) := by
  have complete := same.complete
  have fault := same.fault_endError place.slot
  unfold Place.endError?
  cases place with
  | fields flagged =>
      cases leftEnds : left.ending with
      | complete => simp [complete.mp leftEnds]
      | openQuote start =>
          cases rightEnds : right.ending with
          | complete => simp [leftEnds, rightEnds] at complete
          | openQuote start => simpa using fault
  | _ => simpa using fault

private theorem fault_error? (same : left.SameTokens right) {lexemes others : List Lexeme}
    (tokens : lexemes.map (·.token) = others.map (·.token)) (place : Place) :
    (place.error? left lexemes).map (·.fault) = (place.error? right others).map (·.fault) := by
  induction lexemes generalizing others place with
  | nil =>
      obtain rfl : others = [] := List.map_eq_nil_iff.mp tokens.symm
      exact same.fault_endError? place
  | cons lexeme rest ih =>
      obtain ⟨other, behind, rfl, token, tail⟩ := List.map_eq_cons_iff.mp tokens.symm
      unfold Place.error?
      rw [token]
      cases place.next lexeme.token with
      | ok reached => exact ih tail.symm reached
      | error fault => rfl

end Lexing.SameTokens

theorem sameOutcome_of_sameTokens {text other : String} (same : (lex text).SameTokens (lex other)) :
    SameOutcome (parse text) (parse other) := by
  unfold SameOutcome
  cases read : parse text with
  | ok request =>
      obtain ⟨sentence, written, rfl⟩ := parse_ok_iff_written.mp read
      have again : sentence.IsWrittenIn other := {
        complete := same.complete.mp written.complete
        tokens := same.tokens.symm.trans written.tokens
        url := written.url }
      rw [parse_ok_iff_written.mpr ⟨sentence, again, rfl⟩]
  | error error =>
      have found := parse_eq_error_iff.mp read
      have faults := same.fault_error? same.tokens .method
      rw [found, Option.map_some] at faults
      obtain ⟨otherError, otherFound, fault⟩ := Option.map_eq_some_iff.mp faults.symm
      rw [parse_eq_error_iff.mpr otherFound]
      exact congrArg Except.error fault.symm

/-- Texts that are made of the same tokens, with other gaps between them. -/
inductive Respaced : List Char → List Char → Prop where
  | finished {gap other : List Char} : IsGap gap [] → IsGap other [] → Respaced gap other
  | openQuote {gap other content : List Char} :
      IsGap gap (quoteMark :: content) → IsGap other (quoteMark :: content) → quoteMark ∉ content →
      Respaced (gap ++ quoteMark :: content) (other ++ quoteMark :: content)
  | token {gap other content rest behind : List Char} {token : Token} :
      IsGap gap (content ++ rest) → IsGap other (content ++ behind) →
      Spells token content rest → Spells token content behind → Respaced rest behind →
      Respaced (gap ++ (content ++ rest)) (other ++ (content ++ behind))

/-- A text is a gap, or a gap with an open quote behind it, or a gap with a token behind it and
another text behind that. -/
@[elab_as_elim] theorem text_induction {Holds : List Char → Prop}
    (finished : ∀ gap, IsGap gap [] → Holds gap)
    (openQuote : ∀ gap content, IsGap gap (quoteMark :: content) → quoteMark ∉ content →
      Holds (gap ++ quoteMark :: content))
    (token : ∀ gap content rest token, IsGap gap (content ++ rest) → Spells token content rest →
      Holds rest → Holds (gap ++ (content ++ rest)))
    (text : List Char) : Holds text := by
  induction size : text.length using Nat.strongRecOn generalizing text with
  | ind size ih =>
      have reads := readToken_reads 0 text
      generalize read : readToken 0 text = reading at reads
      cases reads with
      | finished isGap => exact finished _ isGap
      | openQuote isGap unclosed => exact openQuote _ _ isGap unclosed
      | token isGap spells =>
          have shorter := length_rest_lt read
          exact token _ _ _ _ isGap spells (ih _ (size ▸ shorter) _ rfl)

namespace Respaced

theorem refl (text : List Char) : Respaced text text := by
  induction text using text_induction with
  | finished gap isGap => exact .finished isGap isGap
  | openQuote gap content isGap unclosed => exact .openQuote isGap isGap unclosed
  | token gap content rest token isGap spells ih => exact .token isGap isGap spells spells ih

private theorem lexFrom_gap {gap : List Char} (isGap : IsGap gap []) (offset : Nat) :
    ∃ size, lexFrom offset gap = { lexemes := [], ending := .complete, size := size } := by
  have read := readToken_gap isGap offset
  rw [List.append_nil, readToken_nil] at read
  exact ⟨_, lexFrom_of_finished read⟩

private theorem lexFrom_openQuote {gap content : List Char}
    (isGap : IsGap gap (quoteMark :: content)) (unclosed : quoteMark ∉ content) (offset : Nat) :
    ∃ start size, lexFrom offset (gap ++ quoteMark :: content) =
      { lexemes := [], ending := .openQuote start, size := size } := by
  have read := readToken_gap isGap offset
  rw [readToken_openQuote unclosed] at read
  exact ⟨_, _, lexFrom_of_openQuote read⟩

theorem sameTokens {text other : List Char} (respaced : Respaced text other)
    (offset place : Nat) : (lexFrom offset text).SameTokens (lexFrom place other) := by
  induction respaced generalizing offset place with
  | finished isGap isOther =>
      obtain ⟨size, left⟩ := lexFrom_gap isGap offset
      obtain ⟨otherSize, right⟩ := lexFrom_gap isOther place
      rw [left, right]
      exact ⟨rfl, Iff.rfl⟩
  | openQuote isGap isOther unclosed =>
      obtain ⟨start, size, left⟩ := lexFrom_openQuote isGap unclosed offset
      obtain ⟨otherStart, otherSize, right⟩ := lexFrom_openQuote isOther unclosed place
      rw [left, right]
      exact ⟨rfl, by simp⟩
  | token isGap isOther spells spellsOther _ ih =>
      have left := readToken_token isGap spells offset
      have right := readToken_token isOther spellsOther place
      obtain ⟨tokens, complete⟩ := ih _ _
      rw [lexFrom_of_token left, lexFrom_of_token right]
      exact ⟨congrArg (_ :: ·) tokens, complete⟩

end Respaced

theorem sameOutcome_of_respaced {text : String} {other : List Char}
    (respaced : Respaced text.toList other) :
    SameOutcome (parse (String.ofList other)) (parse text) := by
  have same := respaced.sameTokens 0 0
  have lexed : lex (String.ofList other) = lexFrom 0 other := by rw [lex, String.toList_ofList]
  have outcome : SameOutcome (parse text) (parse (String.ofList other)) :=
    sameOutcome_of_sameTokens (lexed ▸ same)
  exact Eq.symm outcome

/-- Blanks and whole lines of comment, with a blank in front. -/
structure IsSpacing (spacing : List Char) : Prop where
  blank : ∃ first rest, spacing = first :: rest ∧ isBlank first = true
  isGap : ∀ after, IsGap spacing after

/-- The byte offset behind the last of some tokens, or `offset` if there are none. -/
def stopBehind (offset : Nat) : List Lexeme → Nat
  | [] => offset
  | lexeme :: rest => stopBehind lexeme.stop rest

/-- The byte offset at which the gap behind the first tokens of a text begins. -/
def Lexing.gapStart (lexing : Lexing) (count : Nat) : Nat :=
  stopBehind 0 (lexing.lexemes.take count)

/-- The byte offset at which the gap behind the first tokens of a text ends: where the next token
starts, or an open quote, or at the end of the text. -/
def Lexing.gapStop (lexing : Lexing) (count : Nat) : Nat :=
  lexing.startOf (lexing.lexemes.drop count)

/-- A text with something else in place of the gap behind its first tokens. -/
def fillGap (text : String) (count : Nat) (spacing : List Char) : String :=
  let before := takeBytes ((lex text).gapStart count) text.toList
  let after := dropBytes ((lex text).gapStop count) text.toList
  String.ofList (before ++ (spacing ++ after))

private theorem Lexing.startOf_cons (lexing : Lexing) (lexeme : Lexeme) (later : List Lexeme) :
    (lexing.cons lexeme).startOf later = lexing.startOf later := by
  cases later <;> rfl

private theorem exists_gap {offset : Nat} {text : List Char} {done later : List Lexeme}
    (lexemes : (lexFrom offset text).lexemes = done ++ later) :
    ∃ before gap after, text = before ++ (gap ++ after) ∧ IsGap gap after ∧
      offset + byteLength before = stopBehind offset done ∧
      offset + byteLength (before ++ gap) = (lexFrom offset text).startOf later ∧
      ∀ spacing, IsSpacing spacing → Respaced text (before ++ (spacing ++ after)) := by
  induction done generalizing offset text with
  | nil =>
      obtain rfl := lexemes
      have reads := readToken_reads offset text
      generalize read : readToken offset text = reading at reads
      cases reads with
      | @token gap content rest token isGap spells =>
          refine ⟨[], gap, content ++ rest, rfl, isGap, rfl, ?_, fun spacing spaces => ?_⟩
          · rw [lexFrom_of_token read]
            rfl
          · exact .token isGap (spaces.isGap _) spells spells (.refl rest)
      | @openQuote gap content isGap unclosed =>
          refine ⟨[], gap, quoteMark :: content, rfl, isGap, rfl, ?_, fun spacing spaces => ?_⟩
          · rw [lexFrom_of_openQuote read]
            rfl
          · exact .openQuote isGap (spaces.isGap _) unclosed
      | finished isGap =>
          refine ⟨[], text, [], (List.append_nil text).symm, isGap, rfl, ?_,
            fun spacing spaces => ?_⟩
          · rw [lexFrom_of_finished read]
            rfl
          · exact .finished isGap ((List.append_nil spacing).symm ▸ spaces.isGap [])
  | cons first done ih =>
      obtain ⟨rest, read, others⟩ := exists_rest lexemes
      obtain ⟨before, next, after, rfl, isNext, start, stop, respaced⟩ := ih others
      have reads := readToken_reads offset text
      rw [read] at reads
      cases reads with
      | @token gap content _ token isGap spells =>
          refine ⟨gap ++ content ++ before, next, after, by simp, isNext, ?_, ?_,
            fun spacing spaces => ?_⟩
          · rw [stopBehind, ← start]
            simp only [Text.byteLength_append]
            omega
          · rw [lexFrom_of_token read, Lexing.startOf_cons, ← stop]
            simp only [Text.byteLength_append]
            omega
          · have closed := isGap.before (append_ne_nil_of_spells spells _)
              (content ++ (before ++ (spacing ++ after)))
            have ends : Spells token content (before ++ (spacing ++ after)) := by
              refine spells.before fun char head => ?_
              cases before with
              | cons _ _ => exact .inr head
              | nil =>
                  obtain ⟨blank, tail, rfl, isBlank⟩ := spaces.blank
                  cases head
                  exact .inl isBlank
            have whole := Respaced.token isGap closed spells ends (respaced spacing spaces)
            simpa using whole

/-- The gap behind some tokens of a text, whatever it is filled with. -/
theorem respaced_fillGap (text : String) (count : Nat) :
    IsGapBetween text.toList ((lex text).gapStart count) ((lex text).gapStop count) ∧
    ∀ spacing, IsSpacing spacing →
      Respaced text.toList (fillGap text count spacing).toList := by
  have parts := (List.take_append_drop count (lex text).lexemes).symm
  obtain ⟨before, gap, after, split, isGap, start, stop, respaced⟩ := exists_gap parts
  rw [Nat.zero_add] at start stop
  constructor
  · refine ⟨before, gap, after, split, start, ?_, isGap⟩
    rw [← Text.byteLength_append]
    exact stop
  · intro spacing spaces
    have front : takeBytes ((lex text).gapStart count) text.toList = before := by
      rw [Lexing.gapStart, ← start, split, Text.takeBytes_byteLength_append]
    have behind : dropBytes ((lex text).gapStop count) text.toList = after := by
      have stops : (lex text).gapStop count = byteLength (before ++ gap) := stop.symm
      rw [stops, split, ← List.append_assoc, Text.dropBytes_byteLength_append]
    rw [fillGap, front, behind, String.toList_ofList]
    exact respaced spacing spaces

/-- A text with each gap changed, while its tokens stay. -/
def rewriteGaps (change : List Char → List Char) (text : List Char) : List Char :=
  match _read : readToken 0 text with
  | .token lexeme rest =>
      let content := dropBytes lexeme.start (takeBytes lexeme.stop text)
      change (takeBytes lexeme.start text) ++ (content ++ rewriteGaps change rest)
  | .openQuote start _ => change (takeBytes start text) ++ dropBytes start text
  | .finished _ => change text
termination_by text.length
decreasing_by exact length_rest_lt _read

/-- Gaps stay gaps by a change, and do not vanish. What stands in front of them still ends there. -/
structure KeepsGaps (change : List Char → List Char) : Prop where
  isGap : ∀ {gap after}, IsGap gap after → IsGap (change gap) after
  head : ∀ {gap char}, (change gap).head? = some char →
    isBlank char = true ∨ gap.head? = some char
  nil : ∀ {gap}, change gap = [] → gap = []

section RewriteGaps

variable {change : List Char → List Char}

private theorem rewriteGaps_eq (change : List Char → List Char) (text : List Char) :
    rewriteGaps change text = match readToken 0 text with
      | .token lexeme rest =>
          change (takeBytes lexeme.start text) ++
            (dropBytes lexeme.start (takeBytes lexeme.stop text) ++ rewriteGaps change rest)
      | .openQuote start _ => change (takeBytes start text) ++ dropBytes start text
      | .finished _ => change text := by
  rw [rewriteGaps]
  split <;> next read => rw [read]

theorem rewriteGaps_finished {gap : List Char} (isGap : IsGap gap []) :
    rewriteGaps change gap = change gap := by
  have read := readToken_gap isGap 0
  rw [List.append_nil, readToken_nil] at read
  rw [rewriteGaps_eq, read]

theorem rewriteGaps_openQuote {gap content : List Char} (isGap : IsGap gap (quoteMark :: content))
    (unclosed : quoteMark ∉ content) : rewriteGaps change (gap ++ quoteMark :: content) =
      change gap ++ quoteMark :: content := by
  have read := readToken_gap isGap 0
  rw [readToken_openQuote unclosed, Nat.zero_add] at read
  rw [rewriteGaps_eq, read]
  dsimp only
  rw [Text.takeBytes_byteLength_append, Text.dropBytes_byteLength_append]

theorem rewriteGaps_token {gap content rest : List Char} {token : Token}
    (isGap : IsGap gap (content ++ rest)) (spells : Spells token content rest) :
    rewriteGaps change (gap ++ (content ++ rest)) =
      change gap ++ (content ++ rewriteGaps change rest) := by
  have read := readToken_token isGap spells 0
  have upTo : takeBytes (byteLength gap + byteLength content) (gap ++ (content ++ rest)) =
      gap ++ content := by
    rw [← Text.byteLength_append, ← List.append_assoc, Text.takeBytes_byteLength_append]
  rw [Nat.zero_add] at read
  rw [rewriteGaps_eq, read]
  dsimp only
  rw [upTo, Text.takeBytes_byteLength_append, Text.dropBytes_byteLength_append]

private theorem KeepsGaps.head_append (keeps : KeepsGaps change) {gap after behind : List Char}
    (same : after.head? = behind.head?) {char : Char}
    (head : (change gap ++ after).head? = some char) :
    isBlank char = true ∨ (gap ++ behind).head? = some char := by
  cases changed : change gap with
  | nil =>
      rw [keeps.nil changed]
      rw [changed] at head
      exact .inr (same.symm.trans head)
  | cons first rest =>
      rw [changed, List.cons_append, List.head?_cons] at head
      have begins : (change gap).head? = some char := by rw [changed]; exact head
      rcases keeps.head begins with blank | kept
      · exact .inl blank
      · exact .inr (by rw [List.head?_append, kept, Option.some_or])

theorem respaced_rewriteGaps (keeps : KeepsGaps change) (text : List Char) :
    Respaced text (rewriteGaps change text) := by
  have head (text : List Char) (char : Char) (head : (rewriteGaps change text).head? = some char) :
      isBlank char = true ∨ text.head? = some char := by
    induction text using text_induction with
    | finished gap isGap =>
        rw [rewriteGaps_finished isGap] at head
        exact keeps.head head
    | openQuote gap content isGap unclosed =>
        rw [rewriteGaps_openQuote isGap unclosed] at head
        exact keeps.head_append rfl head
    | token gap content rest token isGap spells =>
        rw [rewriteGaps_token isGap spells] at head
        refine keeps.head_append ?_ head
        obtain ⟨first, others, rfl⟩ := List.exists_cons_of_ne_nil spells.ne_nil
        rfl
  induction text using text_induction with
  | finished gap isGap =>
      rw [rewriteGaps_finished isGap]
      exact .finished isGap (keeps.isGap isGap)
  | openQuote gap content isGap unclosed =>
      rw [rewriteGaps_openQuote isGap unclosed]
      exact .openQuote isGap (keeps.isGap isGap) unclosed
  | token gap content rest token isGap spells ih =>
      rw [rewriteGaps_token isGap spells]
      have closed := (keeps.isGap isGap).before (append_ne_nil_of_spells spells rest)
        (content ++ rewriteGaps change rest)
      exact .token isGap closed spells (spells.before (head rest)) ih

end RewriteGaps

/-- Blanks without tabs, and line ends without carriage returns. -/
def plainBlanks : List Char → List Char
  | [] => []
  | char :: rest =>
      if char = '\r' ∧ rest.head? = some '\n' then plainBlanks rest
      else if char = '\t' then ' ' :: plainBlanks rest
      else char :: plainBlanks rest

private theorem newline_not_mem_plainBlanks {line : List Char} (inLine : '\n' ∉ line) :
    '\n' ∉ plainBlanks line := by
  induction line with
  | nil => exact inLine
  | cons char rest ih =>
      rw [List.mem_cons, not_or] at inLine
      have later := ih inLine.2
      unfold plainBlanks
      split
      · exact later
      · split
        · simpa using later
        · simpa using ⟨inLine.1, later⟩

private theorem plainBlanks_line {line : List Char} (inLine : '\n' ∉ line) (rest : List Char) :
    ∃ plain, plainBlanks (line ++ '\n' :: rest) = plain ++ '\n' :: plainBlanks rest ∧
      '\n' ∉ plain := by
  induction line with
  | nil => exact ⟨[], rfl, inLine⟩
  | cons char line ih =>
      rw [List.mem_cons, not_or] at inLine
      obtain ⟨plain, split, inPlain⟩ := ih inLine.2
      rw [List.cons_append, plainBlanks, split]
      split
      · exact ⟨plain, rfl, inPlain⟩
      · split
        · exact ⟨' ' :: plain, rfl, by simpa using inPlain⟩
        · exact ⟨char :: plain, rfl, by simpa using ⟨inLine.1, inPlain⟩⟩

theorem keepsGaps_plainBlanks : KeepsGaps plainBlanks where
  isGap := by
    intro gap after isGap
    induction isGap with
    | empty => exact .empty
    | @blank char gap after blank _ ih =>
        unfold plainBlanks
        split
        · exact ih
        · split
          · exact .blank rfl ih
          · exact .blank blank ih
    | @comment body gap after line _ ih =>
        obtain ⟨plain, split, inPlain⟩ := plainBlanks_line line gap
        have same : plainBlanks ('#' :: body ++ '\n' :: gap) =
            '#' :: plain ++ '\n' :: plainBlanks gap := congrArg ('#' :: ·) split
        rw [same]
        exact .comment inPlain ih
    | @lastComment body line => exact .lastComment (newline_not_mem_plainBlanks line)
  head := by
    intro gap char head
    cases gap with
    | nil => cases head
    | cons first rest =>
        unfold plainBlanks at head
        split at head
        · next dropped =>
            obtain ⟨tail, rfl⟩ := List.head?_eq_some_iff.mp dropped.2
            cases head
            exact .inl rfl
        · split at head
          · cases head
            exact .inl rfl
          · exact .inr head
  nil := by
    intro gap empty
    cases gap with
    | nil => rfl
    | cons first rest =>
        unfold plainBlanks at empty
        split at empty
        · next dropped =>
            obtain ⟨tail, rfl⟩ := List.head?_eq_some_iff.mp dropped.2
            cases empty
        · split at empty <;> cases empty

/-- A text with plain line ends and blanks outside of its quotes. -/
def withPlainBlanks (text : String) : String :=
  String.ofList (rewriteGaps plainBlanks text.toList)

/-- Any gap between two tokens, before the first one and behind the last one can be filled with
other blanks and comments: a text is read as the same request, or refused for the same fault. So it
does not matter whether lines end with a carriage return or are indented by tabs. -/
theorem spacing_carries_no_meaning (text : String) :
    (∀ count, IsGapBetween text.toList ((lex text).gapStart count) ((lex text).gapStop count) ∧
      ∀ spacing, IsSpacing spacing →
        SameOutcome (parse (fillGap text count spacing)) (parse text)) ∧
    SameOutcome (parse (withPlainBlanks text)) (parse text) := by
  constructor
  · intro count
    obtain ⟨isGap, respaced⟩ := respaced_fillGap text count
    refine ⟨isGap, fun spacing spaces => ?_⟩
    have outcome := sameOutcome_of_respaced (respaced spacing spaces)
    rwa [String.ofList_toList] at outcome
  · exact sameOutcome_of_respaced (respaced_rewriteGaps keepsGaps_plainBlanks text.toList)

/-- A comment with signs of tokens in it is put where two tokens touch, and a text with carriage
returns and tabs is read like one without. -/
theorem spacing_carries_no_meaning_in_touching :
    let text := "GET \"x\ty\"A:1\r\n\t-f # \"\r\n"
    let spacing := [' ', '#', ' ', '\x22', ':', ' ', '-', '\n', '\t']
    IsSpacing spacing ∧
    fillGap text 2 spacing = "GET \"x\ty\" # \": -\n\tA:1\r\n\t-f # \"\r\n" ∧
    SameOutcome (parse (fillGap text 2 spacing)) (parse text) ∧
    withPlainBlanks text = "GET \"x\ty\"A:1\n -f # \"\n" ∧
    SameOutcome (parse (withPlainBlanks text)) (parse text) := by
  intro text spacing
  have comment (after : List Char) :
      IsGap ('#' :: [' ', '\x22', ':', ' ', '-'] ++ '\n' :: ['\t']) after :=
    .comment (by decide) (.blank rfl .empty)
  have spaces : IsSpacing spacing := {
    blank := ⟨' ', _, rfl, rfl⟩
    isGap := fun after => .blank rfl (comment after) }
  obtain ⟨gaps, plain⟩ := spacing_carries_no_meaning text
  exact ⟨spaces, by decide +kernel, (gaps 2).2 spacing spaces, by decide +kernel, plain⟩

end HttpConsole.Request
