import HttpConsole.Proofs.Request.Reading

/-! What text that follows makes of the tokens before it. A text can be cut where a token starts,
and the tokens before the cut stay as they are if a new line follows; and whatever follows the whole
text, only its last token can grow. -/

set_option autoImplicit false

namespace HttpConsole.Request

open HttpConsole.Text (byteLength)

def Lexing.prepend (lexemes : List Lexeme) (lexing : Lexing) : Lexing :=
  { lexing with lexemes := lexemes ++ lexing.lexemes }

/-- The byte offset at which the first of the last lexemes starts, or an open quote or the end of
the text if none is left. -/
def Lexing.startOf (lexing : Lexing) : List Lexeme → Nat
  | lexeme :: _ => lexeme.start
  | [] =>
      match lexing.ending with
      | .complete => lexing.size
      | .openQuote start => start

/-- A text that is empty or begins with a new line. -/
def BreaksLine (text : List Char) : Prop :=
  ∀ char, text.head? = some char → char = '\n'

/-- What a token becomes when its text goes on: words and flags may get longer. -/
inductive Token.GrowsTo : Token → Token → Prop where
  | word {text : String} (more : String) : text ≠ "" → GrowsTo (.word text) (.word (text ++ more))
  | quoted {text : String} : GrowsTo (.quoted text) (.quoted text)
  | flag {name : String} (more : String) : GrowsTo (.flag name) (.flag (name ++ more))
  | colon : GrowsTo .colon .colon

theorem breaksLine_nil : BreaksLine [] := by
  intro char first
  cases first

theorem breaksLine_cons (rest : List Char) : BreaksLine ('\n' :: rest) := by
  intro char first
  cases first
  rfl

/-- A gap in front of something is made up of blanks and whole lines of comment, so that it is a gap
in front of anything. -/
theorem IsGap.before {gap after : List Char} (isGap : IsGap gap after) (notLast : after ≠ [])
    (other : List Char) : IsGap gap other := by
  induction isGap with
  | empty => exact .empty
  | blank blank _ ih => exact .blank blank (ih notLast)
  | comment line _ ih => exact .comment line (ih notLast)
  | lastComment => exact absurd rfl notLast

private theorem isBlank_newline : isBlank '\n' = true := rfl

/-- A new line behind a text that ends with a gap ends a last comment too. -/
theorem readToken_gap_of_breaksLine {gap more : List Char} (isGap : IsGap gap [])
    (breaks : BreaksLine more) (offset : Nat) :
    readToken offset (gap ++ more) = readToken (offset + byteLength gap) more := by
  generalize last : ([] : List Char) = after at isGap
  induction isGap generalizing offset with
  | empty => simp
  | blank blank _ ih =>
      rw [List.cons_append, readToken_blank blank, ih _ last, Text.byteLength_cons, Nat.add_assoc]
  | @comment body gap _ line _ ih =>
      have comment : IsGap ('#' :: body ++ ['\n']) (gap ++ more) := .comment line .empty
      have read := readToken_gap comment offset
      rw [ih _ last] at read
      simpa [Nat.add_assoc] using read
  | @lastComment body line =>
      cases more with
      | nil => exact readToken_gap (IsGap.lastComment line) offset
      | cons char rest =>
          obtain rfl := breaks char rfl
          have comment : IsGap ('#' :: body ++ ['\n']) rest := .comment line .empty
          have read := readToken_gap comment offset
          rw [readToken_blank isBlank_newline]
          simpa [Nat.add_assoc] using read

theorem isFlagChar_of_blank {char : Char} (blank : isBlank char = true) :
    isFlagChar char = false := by
  simp [isFlagChar, blank]

theorem isWordChar_of_blank {char : Char} (blank : isBlank char = true) :
    isWordChar char = false := by
  simp [isWordChar, blank]

/-- A token ends where it ends if the same character follows, or a blank. -/
theorem Spells.before {token : Token} {content after other : List Char}
    (spells : Spells token content after)
    (head : ∀ char, other.head? = some char → isBlank char = true ∨ after.head? = some char) :
    Spells token content other := by
  cases spells with
  | word notComment notQuote notDash run stops =>
      refine .word notComment notQuote notDash run fun char first => ?_
      rcases head char first with blank | same
      · exact isWordChar_of_blank blank
      · exact stops char same
  | quoted closed => exact .quoted closed
  | flag run stops =>
      refine .flag run fun char first => ?_
      rcases head char first with blank | same
      · exact isFlagChar_of_blank blank
      · exact stops char same
  | colon => exact .colon

/-- With more text behind it, a token is read from the same place on and may have grown. -/
theorem Spells.grows {token : Token} {content after : List Char}
    (spells : Spells token content after) (more : List Char) :
    ∃ grown longer rest, content ++ (after ++ more) = longer ++ rest ∧
      Spells grown longer rest ∧ token.GrowsTo grown := by
  cases spells with
  | @word first tail _ notComment notQuote notDash run stops =>
      refine ⟨_, first :: tail ++ (after ++ more).takeWhile isWordChar,
        (after ++ more).dropWhile isWordChar, ?_,
        .word notComment notQuote notDash (fun char member => ?_)
          (stopsAt_dropWhile isWordChar _), ?_⟩
      · rw [List.append_assoc, List.takeWhile_append_dropWhile]
      · have parts : char ∈ first :: tail ++ (after ++ more).takeWhile isWordChar := member
        rw [List.mem_append] at parts
        exact parts.elim (run char) (all_takeWhile char)
      · change Token.GrowsTo _
          (.word (String.ofList (first :: tail ++ (after ++ more).takeWhile isWordChar)))
        rw [String.ofList_append]
        exact .word _ (by simp)
  | @quoted content _ closed => exact ⟨_, _, _, rfl, .quoted closed, .quoted⟩
  | @flag name _ run stops =>
      refine ⟨_, '-' :: (name ++ (after ++ more).takeWhile isFlagChar),
        (after ++ more).dropWhile isFlagChar, ?_,
        .flag (fun char member => ?_) (stopsAt_dropWhile isFlagChar _), ?_⟩
      · rw [List.cons_append, List.cons_append, List.append_assoc,
          List.takeWhile_append_dropWhile]
      · rw [List.mem_append] at member
        exact member.elim (run char) (all_takeWhile char)
      · rw [String.ofList_append]
        exact .flag _
  | colon => exact ⟨_, _, _, rfl, .colon, .colon⟩

/-- A lexing is known by its first reading. -/
theorem lexFrom_congr {offset place : Nat} {text other : List Char}
    (same : readToken offset text = readToken place other) :
    lexFrom offset text = lexFrom place other := by
  cases read : readToken place other with
  | token lexeme rest => rw [lexFrom_of_token read, lexFrom_of_token (same.trans read)]
  | openQuote start stop => rw [lexFrom_of_openQuote read, lexFrom_of_openQuote (same.trans read)]
  | finished size => rw [lexFrom_of_finished read, lexFrom_of_finished (same.trans read)]

theorem readToken_token {gap content rest : List Char} {token : Token}
    (isGap : IsGap gap (content ++ rest)) (spells : Spells token content rest) (offset : Nat) :
    readToken offset (gap ++ (content ++ rest)) =
      .token {
        token := token
        start := offset + byteLength gap
        stop := offset + byteLength gap + byteLength content } rest := by
  rw [readToken_gap isGap, readToken_spells spells]

theorem append_ne_nil_of_spells {token : Token} {content after : List Char}
    (spells : Spells token content after) (rest : List Char) : content ++ rest ≠ [] := by
  intro empty
  exact spells.ne_nil (List.append_eq_nil_iff.mp empty).1

/-- A token is read again from the text in front of what it leaves, if the same character follows or
a blank. -/
theorem exists_front {offset : Nat} {text rest : List Char} {lexeme : Lexeme}
    (read : readToken offset text = .token lexeme rest) :
    ∃ front, text = front ++ rest ∧ lexeme.stop = offset + byteLength front ∧
      ∀ other, (∀ char, other.head? = some char → isBlank char = true ∨ rest.head? = some char) →
        readToken offset (front ++ other) = .token lexeme other := by
  have reads := readToken_reads offset text
  rw [read] at reads
  cases reads with
  | @token gap content _ token isGap spells =>
      refine ⟨gap ++ content, by simp, by simp [Nat.add_assoc], fun other head => ?_⟩
      have closed := isGap.before (append_ne_nil_of_spells spells rest) (content ++ other)
      rw [List.append_assoc]
      exact readToken_token closed (spells.before head) offset

theorem size_lexFrom (offset : Nat) (text : List Char) :
    (lexFrom offset text).size = offset + byteLength text := by
  fun_induction lexFrom offset text with
  | case1 offset text size read =>
      have reads := readToken_reads offset text
      rw [read] at reads
      cases reads
      rfl
  | case2 offset text start stop read =>
      have reads := readToken_reads offset text
      rw [read] at reads
      cases reads
      simp [Nat.add_assoc]
  | case3 offset text lexeme rest read ih =>
      obtain ⟨front, rfl, stop, -⟩ := exists_front read
      rw [Lexing.size_cons, ih, stop, Text.byteLength_append, Nat.add_assoc]

theorem exists_rest {offset : Nat} {text : List Char} {first : Lexeme} {others : List Lexeme}
    (lexemes : (lexFrom offset text).lexemes = first :: others) :
    ∃ rest, readToken offset text = .token first rest ∧
      (lexFrom first.stop rest).lexemes = others := by
  cases read : readToken offset text with
  | token lexeme rest =>
      rw [lexFrom_of_token read] at lexemes
      obtain ⟨rfl, tail⟩ := List.cons_eq_cons.mp lexemes
      exact ⟨rest, rfl, tail⟩
  | openQuote start stop =>
      rw [lexFrom_of_openQuote read] at lexemes
      cases lexemes
  | finished size =>
      rw [lexFrom_of_finished read] at lexemes
      cases lexemes

/-- A text can be cut in front of any of its tokens, of an open quote, and at its end. The tokens
before the cut are read again whatever follows, if only it begins with a new line. -/
theorem exists_cut {offset : Nat} {text : List Char} {done later : List Lexeme}
    (lexemes : (lexFrom offset text).lexemes = done ++ later) :
    ∃ before after, text = before ++ after ∧
      offset + byteLength before = (lexFrom offset text).startOf later ∧
      ∀ more, BreaksLine more → lexFrom offset (before ++ more) =
        (lexFrom (offset + byteLength before) more).prepend done := by
  induction done generalizing offset text with
  | nil =>
      rw [List.nil_append] at lexemes
      subst lexemes
      have reads := readToken_reads offset text
      generalize read : readToken offset text = reading at reads
      cases reads with
      | @token gap content rest token isGap spells =>
          refine ⟨gap, content ++ rest, rfl, by rw [lexFrom_of_token read]; rfl, fun more _ => ?_⟩
          have closed := isGap.before (append_ne_nil_of_spells spells rest) more
          exact lexFrom_congr (readToken_gap closed offset)
      | @openQuote gap content isGap unclosed =>
          refine ⟨gap, quoteMark :: content, rfl, by rw [lexFrom_of_openQuote read]; rfl,
            fun more _ => ?_⟩
          have closed := isGap.before (List.cons_ne_nil _ _) more
          exact lexFrom_congr (readToken_gap closed offset)
      | finished isGap =>
          refine ⟨text, [], by simp, by rw [lexFrom_of_finished read]; rfl,
            fun more breaks => ?_⟩
          exact lexFrom_congr (readToken_gap_of_breaksLine isGap breaks offset)
  | cons first done ih =>
      obtain ⟨rest, read, others⟩ := exists_rest lexemes
      obtain ⟨front, rfl, stop, again⟩ := exists_front read
      obtain ⟨before, after, rfl, place, goesOn⟩ := ih others
      rw [lexFrom_of_token read]
      refine ⟨front ++ before, after, by simp, ?_, fun more breaks => ?_⟩
      · rw [Text.byteLength_append, ← Nat.add_assoc, ← stop, place]
        cases later <;> rfl
      · have readAgain := again (before ++ more) fun char head => by
          cases before with
          | nil => exact .inl (breaks char head ▸ isBlank_newline)
          | cons _ _ => exact .inr head
        rw [List.append_assoc, lexFrom_of_token readAgain, goesOn more breaks, stop,
          Text.byteLength_append, Nat.add_assoc]
        rfl

/-- Whatever follows a text, the tokens before one of its tokens stay as they are, and this token
can at most grow. -/
theorem exists_grown {offset : Nat} {text : List Char} {done later : List Lexeme}
    {lexeme : Lexeme} (lexemes : (lexFrom offset text).lexemes = done ++ lexeme :: later)
    (more : List Char) : ∃ grown others,
      (lexFrom offset (text ++ more)).lexemes = done ++ grown :: others ∧
      grown.start = lexeme.start ∧ lexeme.token.GrowsTo grown.token := by
  induction done generalizing offset text with
  | nil =>
      obtain ⟨rest, read, -⟩ := exists_rest lexemes
      have reads := readToken_reads offset text
      rw [read] at reads
      cases reads with
      | @token gap content _ token isGap spells =>
          obtain ⟨grown, longer, left, split, spelled, grows⟩ := spells.grows more
          have closed := isGap.before (append_ne_nil_of_spells spells rest) (longer ++ left)
          have again := readToken_token closed spelled offset
          rw [List.append_assoc, List.append_assoc, split, lexFrom_of_token again]
          exact ⟨_, _, rfl, rfl, grows⟩
  | cons first done ih =>
      obtain ⟨rest, read, tail⟩ := exists_rest lexemes
      obtain ⟨front, rfl, -, again⟩ := exists_front read
      obtain ⟨grown, others, found, start, grows⟩ := ih tail
      have readAgain := again (rest ++ more) fun char head => by
        cases rest with
        | nil =>
            -- Another token is read from the rest, so that it cannot be empty.
            rw [lexFrom_of_finished (readToken_nil _)] at tail
            cases done <;> cases tail
        | cons _ _ => exact .inr head
      rw [List.append_assoc, lexFrom_of_token readAgain, Lexing.lexemes_cons, found]
      exact ⟨grown, others, rfl, start, grows⟩

end HttpConsole.Request
