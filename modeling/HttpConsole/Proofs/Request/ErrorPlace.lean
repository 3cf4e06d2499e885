import HttpConsole.Proofs.Request.Continuation
import HttpConsole.Proofs.Request.Grammar

/-! Where syntax errors are found. A parser goes from place to place in the grammar, one token at a
time, and stops at the first token that does not fit. From every place that it reaches there is a
way to a whole request, so that an error is never found too late, and what follows a token that
does not fit cannot make it fit. -/

set_option autoImplicit false

namespace HttpConsole.Request

open HttpConsole.Text (byteLength takeBytes IsBoundary)

/-- What the tokens that are read leave to be read. -/
inductive Place where
  | method
  | url
  | fields (flagged : Bool)
  | colon
  | value

namespace Place

def slot : Place → Slot
  | .method => .method
  | .url => .url
  | .fields _ => .headerOrFlag
  | .colon => .headerColon
  | .value => .headerValue

/-- The place behind a token, or what is wrong with the token. -/
def next (place : Place) (token : Token) : Except SyntaxFault Place :=
  match place with
  | .method =>
      match token with
      | .word _ => .ok .url
      | _ => .error (.unexpectedToken .method token)
  | .url =>
      match token.value? with
      | none => .error (.unexpectedToken .url token)
      | some text => if text = "" then .error .emptyUrl else .ok (.fields false)
  | .fields flagged =>
      match token with
      | .flag _ => .ok (.fields true)
      | .word _ => if flagged then .error .headerAfterFlag else .ok .colon
      | _ => .error (.unexpectedToken .headerOrFlag token)
  | .colon =>
      if token = .colon then .ok .value else .error (.unexpectedToken .headerColon token)
  | .value =>
      match token.value? with
      | none => .error (.unexpectedToken .headerValue token)
      | some _ => .ok (.fields false)

/-- What is wrong with a text that ends at a place. -/
def endError? (place : Place) (lexing : Lexing) : Option SyntaxError :=
  match place, lexing.ending with
  | .fields _, .complete => none
  | place, _ => some (lexing.endError place.slot)

/-- The first error from a place on. -/
def error? (lexing : Lexing) (place : Place) : List Lexeme → Option SyntaxError
  | [] => place.endError? lexing
  | lexeme :: rest =>
      match place.next lexeme.token with
      | .ok reached => reached.error? lexing rest
      | .error fault => some { fault := fault, offset := lexeme.start }

def Reaches (place : Place) : List Lexeme → Place → Prop
  | [], reached => place = reached
  | lexeme :: rest, reached =>
      ∃ behind, place.next lexeme.token = .ok behind ∧ behind.Reaches rest reached

/-- A text that makes a request of what leads to a place. -/
def completion : Place → List Char
  | .method => ['\n', 'G', 'E', 'T', ' ', 'x']
  | .url => ['\n', 'x']
  | .fields _ => []
  | .colon => ['\n', ':', 'v']
  | .value => ['\n', 'v']

end Place

private theorem readFields_eq_error_iff {lexing : Lexing} {request : Request}
    {lexemes : List Lexeme} {error : SyntaxError} {flagged : Bool}
    (marked : flagged = true ↔ request.flags.names ≠ []) :
    readFields lexing request lexemes = .error error ↔
      (Place.fields flagged).error? lexing lexemes = some error := by
  -- The place keeps of the request only whether it has a flag.
  fun_induction readFields lexing request lexemes generalizing flagged with
  | case1 request complete => simp [Place.error?, Place.endError?, complete]
  | case2 request start opened => simp [Place.error?, Place.endError?, opened, Place.slot]
  | case3 request lexeme rest name isFlag ih =>
      have again := ih (iff_of_true rfl (request.names_withFlag_ne_nil name))
      simp [Place.error?, Place.next, isFlag, again]
  | case4 request lexeme rest name isName present =>
      simp [Place.error?, Place.next, isName, marked.mpr present]
  | case5 request lexeme name isName absent =>
      have unmarked := mt marked.mp absent
      simp [Place.error?, Place.next, isName, unmarked, Place.endError?, Place.slot]
  | case6 request lexeme name isName absent separator behind notColon =>
      have unmarked := mt marked.mp absent
      simp [Place.error?, Place.next, isName, unmarked, notColon, Lexeme.misplaced]
  | case7 request lexeme name isName absent separator isColon =>
      have unmarked := mt marked.mp absent
      rw [ne_eq, Decidable.not_not] at isColon
      simp [Place.error?, Place.next, isName, unmarked, isColon, Place.endError?, Place.slot]
  | case8 request lexeme name isName absent separator isColon content others noValue =>
      have unmarked := mt marked.mp absent
      rw [ne_eq, Decidable.not_not] at isColon
      simp [Place.error?, Place.next, isName, unmarked, isColon, noValue, Lexeme.misplaced]
  | case9 request lexeme name isName absent separator isColon content others value isValue ih =>
      have unmarked := mt marked.mp absent
      have again := ih marked
      rw [ne_eq, Decidable.not_not] at isColon
      rw [Bool.eq_false_iff.mpr unmarked] at again ⊢
      simp [Place.error?, Place.next, isName, isColon, isValue, again]
  | case10 request lexeme rest notFlag notWord =>
      cases found : lexeme.token with
      | flag name => exact absurd found (notFlag name)
      | word name => exact absurd found (notWord name)
      | quoted text => simp [Place.error?, Place.next, found, Lexeme.misplaced]
      | colon => simp [Place.error?, Place.next, found, Lexeme.misplaced]

/-- The parser reports the first error on its way. -/
theorem parse_eq_error_iff {text : String} {error : SyntaxError} :
    parse text = .error error ↔
      Place.method.error? (lex text) (lex text).lexemes = some error := by
  unfold parse ofLexing
  cases (lex text).lexemes with
  | nil => simp [Place.error?, Place.endError?, Place.slot]
  | cons first rest =>
      cases isMethod : first.token with
      | word method =>
          cases rest with
          | nil => simp [Place.error?, Place.next, isMethod, Place.endError?, Place.slot]
          | cons second fields =>
              cases isUrl : second.token.value? with
              | none => simp [Place.error?, Place.next, isMethod, isUrl, Lexeme.misplaced]
              | some url =>
                  by_cases empty : url = ""
                  · simp [Place.error?, Place.next, isMethod, isUrl, empty]
                  · have unmarked : false = true ↔ (bare method url).flags.names ≠ [] := by
                      simp [bare]
                    simp [Place.error?, Place.next, isMethod, isUrl, empty,
                      readFields_eq_error_iff unmarked]
      | quoted text => simp [Place.error?, Place.next, isMethod, Lexeme.misplaced]
      | flag name => simp [Place.error?, Place.next, isMethod, Lexeme.misplaced]
      | colon => simp [Place.error?, Place.next, isMethod, Lexeme.misplaced]

/-- An error is found at the end of a text, or it is about the first token that leads nowhere. -/
structure IsFirstError (lexing : Lexing) (error : SyntaxError) (reached : Place)
    (later : List Lexeme) : Prop where
  offset : error.offset = lexing.startOf later
  atEnd : later = [] → reached.endError? lexing = some error
  atToken : ∀ lexeme rest, later = lexeme :: rest →
    reached.next lexeme.token = .error error.fault

theorem Lexing.offset_of_unexpectedEnd {lexing : Lexing} {slot expected : Slot}
    (unfinished : (lexing.endError slot).fault = .unexpectedEnd expected) :
    (lexing.endError slot).offset = lexing.size := by
  unfold endError at unfinished ⊢
  cases ending : lexing.ending with
  | complete => rfl
  | openQuote start =>
      rw [ending] at unfinished
      cases unfinished

theorem Lexing.offset_endError (lexing : Lexing) (slot : Slot) :
    (lexing.endError slot).offset = lexing.startOf [] := by
  unfold endError startOf
  cases lexing.ending <;> rfl

namespace Place

theorem error?_append {lexing : Lexing} {place reached : Place} {done : List Lexeme}
    (reaches : place.Reaches done reached) (later : List Lexeme) :
    place.error? lexing (done ++ later) = reached.error? lexing later := by
  induction done generalizing place with
  | nil =>
      obtain rfl : place = reached := reaches
      rfl
  | cons lexeme done ih =>
      obtain ⟨behind, step, rest⟩ := reaches
      rw [List.cons_append, error?, step]
      exact ih rest

theorem Reaches.append {place reached last : Place} {done later : List Lexeme}
    (reaches : place.Reaches done reached) (goesOn : reached.Reaches later last) :
    place.Reaches (done ++ later) last := by
  induction done generalizing place with
  | nil =>
      obtain rfl : place = reached := reaches
      exact goesOn
  | cons lexeme done ih =>
      obtain ⟨behind, step, rest⟩ := reaches
      exact ⟨behind, step, ih rest⟩

theorem endError?_eq_some {lexing : Lexing} {place : Place} {error : SyntaxError}
    (found : place.endError? lexing = some error) : error = lexing.endError place.slot := by
  unfold endError? at found
  split at found
  · cases found
  · exact (Option.some.inj found).symm

theorem exists_of_error? {lexing : Lexing} {place : Place} {lexemes : List Lexeme}
    {error : SyntaxError} (found : place.error? lexing lexemes = some error) :
    ∃ done later reached, lexemes = done ++ later ∧ place.Reaches done reached ∧
      IsFirstError lexing error reached later := by
  induction lexemes generalizing place with
  | nil =>
      refine ⟨[], [], place, rfl, rfl, ?_⟩
      constructor
      · rw [endError?_eq_some found]
        exact lexing.offset_endError place.slot
      · exact fun _ => found
      · intro lexeme rest impossible
        cases impossible
  | cons lexeme rest ih =>
      rw [error?] at found
      split at found
      · next behind step =>
          obtain ⟨done, later, reached, rfl, reaches, first⟩ := ih found
          exact ⟨lexeme :: done, later, reached, rfl, ⟨behind, step, reaches⟩, first⟩
      · next fault step =>
          cases found
          refine ⟨[], lexeme :: rest, place, rfl, rfl, ?_⟩
          constructor
          · rfl
          · intro impossible
            cases impossible
          · intro first others same
            cases same
            exact step

theorem breaksLine_completion (place : Place) : BreaksLine place.completion := by
  cases place with
  | fields flagged => exact breaksLine_nil
  | _ => exact breaksLine_cons _

private theorem lexFrom_nil (offset : Nat) :
    lexFrom offset [] = { lexemes := [], ending := .complete, size := offset } :=
  lexFrom_of_finished (readToken_nil offset)

theorem completes (place : Place) (offset : Nat) : ∃ flagged,
    place.Reaches (lexFrom offset place.completion).lexemes (.fields flagged) ∧
    (lexFrom offset place.completion).ending = .complete := by
  cases place with
  | method =>
      obtain ⟨start, stop, method⟩ : ∃ start stop,
          readToken offset ['\n', 'G', 'E', 'T', ' ', 'x'] =
          .token { token := .word "GET", start := start, stop := stop } [' ', 'x'] := by
        simp [readToken, isBlank, isWordChar, quoteMark]
      obtain ⟨first, last, url⟩ : ∃ start last, readToken stop [' ', 'x'] =
          .token { token := .word "x", start := start, stop := last } [] := by
        simp [readToken, isBlank, quoteMark]
      rw [completion, lexFrom_of_token method, lexFrom_of_token url, lexFrom_nil]
      exact ⟨false, ⟨_, rfl, _, rfl, rfl⟩, rfl⟩
  | url =>
      obtain ⟨start, stop, url⟩ : ∃ start stop, readToken offset ['\n', 'x'] =
          .token { token := .word "x", start := start, stop := stop } [] := by
        simp [readToken, isBlank, quoteMark]
      rw [completion, lexFrom_of_token url, lexFrom_nil]
      exact ⟨false, ⟨_, rfl, rfl⟩, rfl⟩
  | fields flagged =>
      rw [completion, lexFrom_nil]
      exact ⟨flagged, rfl, rfl⟩
  | colon =>
      obtain ⟨start, stop, colon⟩ : ∃ start stop, readToken offset ['\n', ':', 'v'] =
          .token { token := .colon, start := start, stop := stop } ['v'] := by
        simp [readToken, isBlank]
      obtain ⟨first, last, value⟩ : ∃ start last, readToken stop ['v'] =
          .token { token := .word "v", start := start, stop := last } [] := by
        simp [readToken, isBlank, quoteMark]
      rw [completion, lexFrom_of_token colon, lexFrom_of_token value, lexFrom_nil]
      exact ⟨false, ⟨_, rfl, _, rfl, rfl⟩, rfl⟩
  | value =>
      obtain ⟨start, stop, value⟩ : ∃ start stop, readToken offset ['\n', 'v'] =
          .token { token := .word "v", start := start, stop := stop } [] := by
        simp [readToken, isBlank, quoteMark]
      rw [completion, lexFrom_of_token value, lexFrom_nil]
      exact ⟨false, ⟨_, rfl, rfl⟩, rfl⟩

end Place

theorem parse_ok_of_reaches {text : String} (flagged : Bool)
    (reaches : Place.method.Reaches (lex text).lexemes (.fields flagged))
    (complete : (lex text).ending = .complete) : ∃ request, parse text = .ok request := by
  cases parsed : parse text with
  | ok request => exact ⟨request, rfl⟩
  | error error =>
      have found := parse_eq_error_iff.mp parsed
      have atEnd : Place.method.error? (lex text) ((lex text).lexemes ++ []) = _ :=
        Place.error?_append reaches []
      rw [List.append_nil, found] at atEnd
      simp [Place.error?, Place.endError?, complete] at atEnd

def SyntaxFault.expected? : SyntaxFault → Option Slot
  | .unexpectedEnd expected => some expected
  | .unexpectedToken expected _ => some expected
  | _ => none

/-- Whether something is wrong with a token, and not with the end of the text. -/
def SyntaxFault.isAboutToken : SyntaxFault → Bool
  | .unexpectedToken _ _ | .headerAfterFlag | .emptyUrl => true
  | .unterminatedQuote | .unexpectedEnd _ => false

/-- Faults of one kind, about the same slot. -/
structure SyntaxFault.SameKind (fault other : SyntaxFault) : Prop where
  name : fault.name = other.name
  expected : fault.expected? = other.expected?

theorem Place.isAboutToken_of_next {place : Place} {token : Token} {fault : SyntaxFault}
    (wrong : place.next token = .error fault) : fault.isAboutToken = true := by
  cases place with
  | method => cases token <;> cases wrong <;> rfl
  | url =>
      cases found : token.value? with
      | none =>
          simp only [next, found] at wrong
          cases wrong
          rfl
      | some text =>
          simp only [next, found] at wrong
          split at wrong <;> cases wrong
          rfl
  | fields flagged => cases token <;> cases flagged <;> cases wrong <;> rfl
  | colon => cases token <;> cases wrong <;> rfl
  | value => cases token <;> cases wrong <;> rfl

theorem Place.isAboutToken_of_endError? {place : Place} {lexing : Lexing} {error : SyntaxError}
    (wrong : place.endError? lexing = some error) : error.fault.isAboutToken = false := by
  rw [endError?_eq_some wrong]
  unfold Lexing.endError
  cases lexing.ending <;> rfl

/-- A token that does not fit does not fit if it grows, for the same reason. -/
theorem Place.next_grown {place : Place} {token grown : Token} {fault : SyntaxFault}
    (wrong : place.next token = .error fault) (grows : token.GrowsTo grown) :
    ∃ other, place.next grown = .error other ∧ other.SameKind fault := by
  -- What a place makes of a token depends on its kind, and on its text only if that may be empty.
  cases grows with
  | word more nonempty =>
      cases place with
      | method => cases wrong
      | url => simp [next, Token.value?, nonempty] at wrong
      | fields flagged =>
          cases flagged with
          | false => cases wrong
          | true =>
              cases wrong
              exact ⟨_, rfl, rfl, rfl⟩
      | colon =>
          cases wrong
          exact ⟨_, rfl, rfl, rfl⟩
      | value => cases wrong
  | quoted => exact ⟨fault, wrong, rfl, rfl⟩
  | flag more =>
      cases place with
      | fields flagged => cases wrong
      | _ =>
          cases wrong
          exact ⟨_, rfl, rfl, rfl⟩
  | colon => exact ⟨fault, wrong, rfl, rfl⟩

theorem exists_completion {before : List Char} {done : List Lexeme} {reached : Place}
    (reaches : Place.method.Reaches done reached)
    (goesOn : ∀ more, BreaksLine more →
      lexFrom 0 (before ++ more) = (lexFrom (0 + byteLength before) more).prepend done) :
    ∃ more request, parse (String.ofList before ++ more) = .ok request := by
  obtain ⟨flagged, completes, complete⟩ := reached.completes (0 + byteLength before)
  have read : lex (String.ofList before ++ String.ofList reached.completion) =
      (lexFrom (0 + byteLength before) reached.completion).prepend done := by
    rw [lex, String.toList_append, String.toList_ofList, String.toList_ofList]
    exact goesOn _ reached.breaksLine_completion
  refine ⟨String.ofList reached.completion, parse_ok_of_reaches flagged ?_ ?_⟩
  · rw [read]
    exact reaches.append completes
  · rw [read]
    exact complete

/-- A token that does not fit is reported whatever follows the text. -/
theorem stays_wrong {text : String} {done later : List Lexeme} {lexeme : Lexeme} {reached : Place}
    {fault : SyntaxFault} (lexemes : (lex text).lexemes = done ++ lexeme :: later)
    (reaches : Place.method.Reaches done reached)
    (wrong : reached.next lexeme.token = .error fault) (more : String) :
    ∃ other, parse (text ++ more) = .error other ∧ other.offset = lexeme.start ∧
      other.fault.SameKind fault := by
  obtain ⟨grown, others, found, start, grows⟩ := exists_grown lexemes more.toList
  obtain ⟨other, stillWrong, same⟩ := Place.next_grown wrong grows
  refine ⟨{ fault := other, offset := grown.start }, parse_eq_error_iff.mpr ?_, start, same⟩
  rw [lex, String.toList_append, found, Place.error?_append reaches, Place.error?, stillWrong]

/-- An error is found as early as it can be: what stands before it can be completed to a request.
If it is about a token, no text that follows can mend it. -/
theorem syntax_error_early_and_final (text : String) (error : SyntaxError)
    (failed : parse text = .error error) :
    error.offset ≤ byteLength text.toList ∧ IsBoundary text.toList error.offset ∧
    (∃ more request,
      parse (String.ofList (takeBytes error.offset text.toList) ++ more) = .ok request) ∧
    (error.fault.isAboutToken = true → ∀ more, ∃ other, parse (text ++ more) = .error other ∧
      other.offset = error.offset ∧ other.fault.SameKind error.fault) ∧
    ∀ expected, error.fault = .unexpectedEnd expected → error.offset = byteLength text.toList := by
  have found := parse_eq_error_iff.mp failed
  obtain ⟨done, later, reached, lexemes, reaches, first⟩ := Place.exists_of_error? found
  obtain ⟨before, after, split, place, goesOn⟩ := exists_cut lexemes
  rw [Nat.zero_add, ← lex, ← first.offset] at place
  refine ⟨?_, ⟨before, after, split, place⟩, ?_, ?_, ?_⟩
  · rw [split, Text.byteLength_append, place]
    exact Nat.le_add_right _ _
  · have taken : takeBytes error.offset text.toList = before := by
      rw [split, ← place, Text.takeBytes_byteLength_append]
    rw [taken]
    exact exists_completion reaches goesOn
  · intro about more
    cases later with
    | nil =>
        rw [Place.isAboutToken_of_endError? (first.atEnd rfl)] at about
        cases about
    | cons lexeme rest =>
        rw [first.offset]
        exact stays_wrong lexemes reaches (first.atToken lexeme rest rfl) more
  · intro expected unfinished
    cases later with
    | nil =>
        have atEnd := Place.endError?_eq_some (first.atEnd rfl)
        rw [atEnd] at unfinished ⊢
        rw [Lexing.offset_of_unexpectedEnd unfinished, lex, size_lexFrom, Nat.zero_add]
    | cons lexeme rest =>
        have about := Place.isAboutToken_of_next (first.atToken lexeme rest rfl)
        rw [unfinished] at about
        cases about

/-- A header name behind a flag stays wrong, also when its colon and value follow. -/
theorem header_after_flag_stays_wrong :
    parse "GET é -f A" = .error { fault := .headerAfterFlag, offset := 10 } ∧
    ∀ more, ∃ other, parse ("GET é -f A" ++ more) = .error other ∧
      other.offset = 10 ∧ other.fault.SameKind .headerAfterFlag := by
  have failed : parse "GET é -f A" = .error { fault := .headerAfterFlag, offset := 10 } :=
    parse_eq_error_iff.mpr (by decide +kernel)
  obtain ⟨-, -, -, final, -⟩ := syntax_error_early_and_final "GET é -f A" _ failed
  exact ⟨failed, final rfl⟩

end HttpConsole.Request
