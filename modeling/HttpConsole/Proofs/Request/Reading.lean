import HttpConsole.Request.Lexer

/-! What one token reading comes to, said without the order of its tests: a gap of blanks and
comments, then the text of one token, of an open quote, or nothing. -/

set_option autoImplicit false

namespace HttpConsole.Request

open HttpConsole.Text (byteLength)

/-- Blanks and comments in front of `after`. A comment runs through its line feed, and only the
last one of a text may lack it. -/
inductive IsGap : List Char → List Char → Prop where
  | empty {after : List Char} : IsGap [] after
  | blank {char : Char} {gap after : List Char} :
      isBlank char = true → IsGap gap after → IsGap (char :: gap) after
  | comment {body gap after : List Char} :
      '\n' ∉ body → IsGap gap after → IsGap ('#' :: body ++ '\n' :: gap) after
  | lastComment {body : List Char} : '\n' ∉ body → IsGap ('#' :: body) []

/-- A run of characters that satisfy `keep` cannot be continued into `after`. -/
def StopsAt (keep : Char → Bool) (after : List Char) : Prop :=
  ∀ char, after.head? = some char → keep char = false

/-- The token that a stretch of text stands for when `after` follows it. -/
inductive Spells : Token → List Char → List Char → Prop where
  | word {first : Char} {rest after : List Char} :
      first ≠ '#' → first ≠ quoteMark → first ≠ '-' →
      (∀ char ∈ first :: rest, isWordChar char = true) → StopsAt isWordChar after →
      Spells (.word (String.ofList (first :: rest))) (first :: rest) after
  | quoted {content after : List Char} :
      quoteMark ∉ content →
      Spells (.quoted (String.ofList content)) (quoteMark :: content ++ [quoteMark]) after
  | flag {name after : List Char} :
      (∀ char ∈ name, isFlagChar char = true) → StopsAt isFlagChar after →
      Spells (.flag (String.ofList name)) ('-' :: name) after
  | colon {after : List Char} : Spells .colon [':'] after

/-- What a reading of a text that stands at byte `offset` may come to. -/
inductive Reads (offset : Nat) : List Char → Reading → Prop where
  | token {gap content rest : List Char} {token : Token} :
      IsGap gap (content ++ rest) → Spells token content rest →
      Reads offset (gap ++ (content ++ rest))
        (.token {
          token := token
          start := offset + byteLength gap
          stop := offset + byteLength gap + byteLength content } rest)
  | openQuote {gap content : List Char} :
      IsGap gap (quoteMark :: content) → quoteMark ∉ content →
      Reads offset (gap ++ quoteMark :: content)
        (.openQuote (offset + byteLength gap)
          (offset + byteLength gap + byteLength (quoteMark :: content)))
  | finished {gap : List Char} :
      IsGap gap [] → Reads offset gap (.finished (offset + byteLength gap))

theorem Spells.ne_nil {token : Token} {content after : List Char}
    (spells : Spells token content after) : content ≠ [] := by
  cases spells <;> simp

theorem all_takeWhile {keep : Char → Bool} {text : List Char} :
    ∀ char ∈ text.takeWhile keep, keep char = true := by
  intro char member
  exact List.all_eq_true.mp (List.all_takeWhile (l := text)) char member

theorem stopsAt_dropWhile (keep : Char → Bool) (text : List Char) :
    StopsAt keep (text.dropWhile keep) := by
  intro char first
  have stopped := List.head?_dropWhile_not keep text
  rw [first] at stopped
  simpa using stopped

private theorem not_mem_takeWhile (mark : Char) (text : List Char) :
    mark ∉ text.takeWhile (· != mark) := by
  intro member
  simpa using all_takeWhile mark member

private theorem head_dropWhile_ne {mark char : Char} {text rest : List Char}
    (found : text.dropWhile (· != mark) = char :: rest) : char = mark := by
  have stopped := stopsAt_dropWhile (· != mark) text char (by rw [found]; rfl)
  simpa using stopped

private theorem takeWhile_ne_of_dropWhile_nil {mark : Char} {text : List Char}
    (found : text.dropWhile (· != mark) = []) : text.takeWhile (· != mark) = text := by
  have parts := List.takeWhile_append_dropWhile (p := (· != mark)) (l := text)
  rwa [found, List.append_nil] at parts

private theorem takeWhile_ne_append {mark char : Char} {text rest : List Char}
    (found : text.dropWhile (· != mark) = char :: rest) :
    text = text.takeWhile (· != mark) ++ mark :: rest := by
  have parts := List.takeWhile_append_dropWhile (p := (· != mark)) (l := text)
  rw [found, head_dropWhile_ne found] at parts
  exact parts.symm

/-- A reading is the same behind anything that may stand in a gap. -/
private theorem Reads.behind {offset : Nat} {text : List Char} {reading : Reading}
    (skipped : List Char)
    (extend : ∀ {gap after : List Char}, IsGap gap after → IsGap (skipped ++ gap) after)
    (reads : Reads (offset + byteLength skipped) text reading) :
    Reads offset (skipped ++ text) reading := by
  cases reads with
  | token gap spells =>
      have further : Reads offset _ _ := .token (extend gap) spells
      simpa only [Text.byteLength_append, List.append_assoc, Nat.add_assoc] using further
  | openQuote gap unclosed =>
      have further : Reads offset _ _ := .openQuote (extend gap) unclosed
      simpa only [Text.byteLength_append, List.append_assoc, Nat.add_assoc] using further
  | finished gap =>
      have further : Reads offset _ _ := .finished (extend gap)
      simpa only [Text.byteLength_append, Nat.add_assoc] using further

/-- A reading without a gap in front. -/
private theorem Reads.token_at {offset stop : Nat} {text rest : List Char} {token : Token}
    (content : List Char) (split : text = content ++ rest)
    (ends : stop = offset + byteLength content) (spells : Spells token content rest) :
    Reads offset text (.token { token := token, start := offset, stop := stop } rest) := by
  subst split ends
  have reads : Reads offset ([] ++ (content ++ rest)) _ := .token .empty spells
  exact reads

theorem readToken_reads (offset : Nat) (text : List Char) :
    Reads offset text (readToken offset text) := by
  fun_induction readToken offset text with
  | case1 offset => exact .finished .empty
  | case2 offset char rest next blank ih =>
      exact Reads.behind [char] (.blank blank) ih
  | case3 offset rest found next _ comment =>
      have whole := takeWhile_ne_of_dropWhile_nil found
      have body := not_mem_takeWhile '\n' rest
      rw [whole] at body
      have reads : Reads offset ('#' :: rest) _ := .finished (.lastComment body)
      simpa +zetaDelta only [whole, Text.byteLength_cons, Nat.add_assoc] using reads
  | case4 offset rest newline behind found next _ comment ih =>
      have ended := head_dropWhile_ne found
      subst ended
      have body := not_mem_takeWhile '\n' rest
      have reads : Reads offset _ _ := Reads.behind ('#' :: rest.takeWhile (· != '\n') ++ ['\n'])
        (fun gap => by simpa using IsGap.comment body gap)
        (by simpa +zetaDelta [Nat.add_assoc] using ih)
      have split := takeWhile_ne_append found
      simpa +zetaDelta [Nat.add_assoc, ← split] using reads
  | case5 offset rest => exact Reads.token_at [':'] rfl rfl .colon
  | case6 offset rest content found next _ _ _ close =>
      have whole := takeWhile_ne_of_dropWhile_nil found
      have unclosed := not_mem_takeWhile quoteMark rest
      rw [whole] at unclosed
      have reads : Reads offset ([] ++ quoteMark :: rest) _ := .openQuote .empty unclosed
      simpa +zetaDelta [whole, Nat.add_assoc] using reads
  | case7 offset rest content mark behind found token next _ _ _ close =>
      have closed := head_dropWhile_ne found
      subst closed
      refine Reads.token_at _ ?_ ?_ (.quoted (not_mem_takeWhile quoteMark rest))
      · have split := takeWhile_ne_append found
        simpa using split
      · simp +zetaDelta [Nat.add_assoc]
  | case8 offset rest name token next =>
      refine Reads.token_at _ ?_ ?_ (.flag all_takeWhile (stopsAt_dropWhile isFlagChar rest))
      · simp +zetaDelta
      · simp +zetaDelta [Nat.add_assoc]
  | case9 offset char rest notBlank notComment notColon notQuote notDash =>
      have first : isWordChar char = true := by simp [isWordChar, notBlank, notColon]
      refine Reads.token_at (char :: rest.takeWhile isWordChar) ?_ rfl
        (.word notComment notQuote notDash ?_ (stopsAt_dropWhile isWordChar rest))
      · rw [List.cons_append, List.takeWhile_append_dropWhile]
      · intro other member
        rcases List.mem_cons.mp member with rfl | member
        · exact first
        · exact all_takeWhile other member

private theorem all_bne_of_not_mem {mark : Char} {body : List Char} (absent : mark ∉ body) :
    ∀ char ∈ body, (char != mark) = true := by
  intro char member
  rw [bne_iff_ne]
  rintro rfl
  exact absent member

private theorem dropWhile_ne_of_not_mem {mark : Char} {body : List Char} (absent : mark ∉ body) :
    body.dropWhile (· != mark) = [] := by
  have dropped : (body ++ []).dropWhile (· != mark) = [] :=
    List.dropWhile_append_of_pos (all_bne_of_not_mem absent)
  rwa [List.append_nil] at dropped

private theorem dropWhile_ne_append_cons {mark : Char} {body : List Char} (absent : mark ∉ body)
    (after : List Char) : (body ++ mark :: after).dropWhile (· != mark) = mark :: after := by
  rw [List.dropWhile_append_of_pos (all_bne_of_not_mem absent)]
  simp

private theorem takeWhile_ne_append_cons {mark : Char} {body : List Char} (absent : mark ∉ body)
    (after : List Char) : (body ++ mark :: after).takeWhile (· != mark) = body := by
  have parts := List.takeWhile_append_dropWhile (p := (· != mark)) (l := body ++ mark :: after)
  rw [dropWhile_ne_append_cons absent] at parts
  exact List.append_cancel_right parts

private theorem dropWhile_append_of_stopsAt {keep : Char → Bool} {run after : List Char}
    (all : ∀ char ∈ run, keep char = true) (stops : StopsAt keep after) :
    (run ++ after).dropWhile keep = after := by
  rw [List.dropWhile_append_of_pos all]
  cases after with
  | nil => rfl
  | cons char rest => simp [stops char rfl]

private theorem takeWhile_append_of_stopsAt {keep : Char → Bool} {run after : List Char}
    (all : ∀ char ∈ run, keep char = true) (stops : StopsAt keep after) :
    (run ++ after).takeWhile keep = run := by
  have parts := List.takeWhile_append_dropWhile (p := keep) (l := run ++ after)
  rw [dropWhile_append_of_stopsAt all stops] at parts
  exact List.append_cancel_right parts

theorem readToken_nil (offset : Nat) : readToken offset [] = .finished offset := by
  rw [readToken]

theorem readToken_blank {char : Char} (blank : isBlank char = true) (offset : Nat)
    (after : List Char) :
    readToken offset (char :: after) = readToken (offset + char.utf8Size) after := by
  rw [readToken]
  simp only [blank, if_true]

private theorem readToken_comment {body : List Char} (line : '\n' ∉ body) (offset : Nat)
    (after : List Char) : readToken offset ('#' :: body ++ '\n' :: after) =
      readToken (offset + byteLength ('#' :: body ++ ['\n'])) after := by
  have dropped := dropWhile_ne_append_cons line after
  have taken := takeWhile_ne_append_cons line after
  rw [List.cons_append, readToken]
  simp only [show isBlank '#' = false from rfl, Bool.false_eq_true, if_false, if_true, taken]
  split
  · next found => rw [dropped] at found; cases found
  · next found =>
      rw [dropped] at found
      cases found
      simp [Nat.add_assoc]

private theorem readToken_lastComment {body : List Char} (line : '\n' ∉ body) (offset : Nat) :
    readToken offset ('#' :: body) = .finished (offset + byteLength ('#' :: body)) := by
  have dropped := dropWhile_ne_of_not_mem line
  have taken := takeWhile_ne_of_dropWhile_nil dropped
  rw [readToken]
  simp only [show isBlank '#' = false from rfl, Bool.false_eq_true, if_false, if_true, taken]
  split
  · simp [Nat.add_assoc]
  · next found => rw [dropped] at found; cases found

/-- Reading goes on behind a gap as if the gap was not there. -/
theorem readToken_gap {gap after : List Char} (isGap : IsGap gap after) (offset : Nat) :
    readToken offset (gap ++ after) = readToken (offset + byteLength gap) after := by
  induction isGap generalizing offset with
  | empty => simp
  | blank blank _ ih =>
      rw [List.cons_append, readToken_blank blank, ih, Text.byteLength_cons, Nat.add_assoc]
  | @comment body gap after line _ ih =>
      have read := readToken_comment line offset (gap ++ after)
      rw [ih] at read
      simpa [Nat.add_assoc] using read
  | lastComment line =>
      rw [List.append_nil, readToken_lastComment line, readToken]

theorem readToken_spells {token : Token} {content after : List Char}
    (spells : Spells token content after) (offset : Nat) :
    readToken offset (content ++ after) =
      .token { token := token, start := offset, stop := offset + byteLength content } after := by
  cases spells with
  | @word first rest _ notComment notQuote notDash run stops =>
      have inWord := run first List.mem_cons_self
      simp only [isWordChar, Bool.and_eq_true, Bool.not_eq_true', bne_iff_ne, ne_eq] at inWord
      have tail : ∀ char ∈ rest, isWordChar char = true := fun char member =>
        run char (List.mem_cons_of_mem _ member)
      rw [List.cons_append, readToken]
      simp only [inWord.1, inWord.2, notComment, notQuote, notDash, Bool.false_eq_true, if_false,
        takeWhile_append_of_stopsAt tail stops, dropWhile_append_of_stopsAt tail stops]
  | @quoted content _ closed =>
      have dropped := dropWhile_ne_append_cons closed after
      have taken := takeWhile_ne_append_cons closed after
      rw [List.cons_append, List.cons_append, List.append_assoc, List.singleton_append, readToken]
      simp only [show isBlank quoteMark = false from rfl, show quoteMark ≠ '#' from by decide,
        show quoteMark ≠ ':' from by decide, Bool.false_eq_true, if_false, if_true, taken, dropped]
      simp [Nat.add_assoc]
  | @flag name _ run stops =>
      rw [List.cons_append, readToken]
      simp only [show isBlank '-' = false from rfl, show '-' ≠ '#' from by decide,
        show '-' ≠ ':' from by decide, show '-' ≠ quoteMark from by decide, Bool.false_eq_true,
        if_false, if_true, takeWhile_append_of_stopsAt run stops,
        dropWhile_append_of_stopsAt run stops]
      simp [Nat.add_assoc]
  | colon =>
      rw [List.singleton_append, readToken]
      simp [isBlank]

theorem readToken_openQuote {content : List Char} (unclosed : quoteMark ∉ content)
    (offset : Nat) : readToken offset (quoteMark :: content) =
      .openQuote offset (offset + byteLength (quoteMark :: content)) := by
  have dropped := dropWhile_ne_of_not_mem unclosed
  have taken := takeWhile_ne_of_dropWhile_nil dropped
  rw [readToken]
  simp only [show isBlank quoteMark = false from rfl, show quoteMark ≠ '#' from by decide,
    show quoteMark ≠ ':' from by decide, Bool.false_eq_true, if_false, if_true, taken, dropped]
  simp [Nat.add_assoc]

end HttpConsole.Request
