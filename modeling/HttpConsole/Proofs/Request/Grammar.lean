import HttpConsole.Request.Parser
import Mathlib.Data.List.Induction
import Mathlib.Data.List.Sort

/-! The grammar of request texts, given by the tokens of a sentence. The parser accepts exactly
the texts whose tokens make up a sentence, and returns what the sentence says. -/

set_option autoImplicit false

namespace HttpConsole.Request

/-- A URL or the value of a header as it is written. -/
inductive Value where
  | bare (text : String)
  | quoted (text : String)

def Value.text : Value → String
  | .bare text => text
  | .quoted text => text

def Value.token : Value → Token
  | .bare text => .word text
  | .quoted text => .quoted text

/-- The parts of a request in the order in which they are written. -/
structure Sentence where
  method : String
  url : Value
  headers : List (String × Value)
  flags : List String

def headerTokens (header : String × Value) : List Token :=
  [.word header.1, .colon, header.2.token]

def fieldTokens (headers : List (String × Value)) (flags : List String) : List Token :=
  headers.flatMap headerTokens ++ flags.map .flag

def Sentence.tokens (sentence : Sentence) : List Token :=
  .word sentence.method :: sentence.url.token :: fieldTokens sentence.headers sentence.flags

/-- A text is written as a sentence: no quote stays open, and its tokens are the sentence's. -/
structure Sentence.IsWrittenIn (sentence : Sentence) (text : String) : Prop where
  complete : (lex text).ending = .complete
  tokens : (lex text).tokens = sentence.tokens
  url : sentence.url.text ≠ ""

def headerTexts (headers : List (String × Value)) : List (String × String) :=
  headers.map fun header => (header.1, header.2.text)

/-- A request is what a sentence says. The names of its headers stand in the order of their first
occurrences, each with the value of its last one. -/
structure Sentence.Says (sentence : Sentence) (request : Request) : Prop where
  method : request.method = sentence.method
  url : request.url = sentence.url.text
  names : request.headers.entries.map Prod.fst = (sentence.headers.map Prod.fst).eraseDups
  values : ∀ name value, (name, value) ∈ request.headers.entries ↔
    ∃ earlier later, headerTexts sentence.headers = earlier ++ (name, value) :: later ∧
      name ∉ later.map Prod.fst
  flags : ∀ name, request.flags.has name = true ↔ name ∈ sentence.flags

private theorem value?_token (value : Value) : value.token.value? = some value.text := by
  cases value <;> rfl

private theorem exists_value {token : Token} {text : String} (found : token.value? = some text) :
    ∃ value : Value, token = value.token ∧ text = value.text := by
  cases token with
  | word content => cases found; exact ⟨.bare text, rfl, rfl⟩
  | quoted content => cases found; exact ⟨.quoted text, rfl, rfl⟩
  | flag name => cases found
  | colon => cases found

def HeaderTable.putAll (table : HeaderTable) (headers : List (String × String)) : HeaderTable :=
  headers.foldl (fun table header => table.put header.1 header.2) table

def FlagSet.addAll (flags : FlagSet) (names : List String) : FlagSet :=
  names.foldl FlagSet.add flags

/-- A request with more headers and flags, written in their order. -/
def withFields (request : Request) (headers : List (String × String)) (flags : List String) :
    Request :=
  { request with
    headers := request.headers.putAll headers
    flags := request.flags.addAll flags }

/-- Headers can only be read as long as no flag has been. -/
private theorem readFields_sound {lexing : Lexing} {request result : Request}
    {lexemes : List Lexeme} (read : readFields lexing request lexemes = .ok result) :
    lexing.ending = .complete ∧ ∃ headers flags,
      lexemes.map (·.token) = fieldTokens headers flags ∧
      (request.flags.names ≠ [] → headers = []) ∧
      result = request.withFields (headerTexts headers) flags := by
  fun_induction readFields lexing request lexemes with
  | case1 request complete =>
      cases read
      exact ⟨complete, [], [], rfl, fun _ => rfl, rfl⟩
  | case2 => cases read
  | case3 request lexeme rest name isFlag ih =>
      obtain ⟨complete, headers, flags, tokens, noHeader, same⟩ := ih read
      have none := noHeader (names_withFlag_ne_nil request name)
      subst none
      refine ⟨complete, [], name :: flags, ?_, fun _ => rfl, same⟩
      simpa [fieldTokens, isFlag] using tokens
  | case4 => cases read
  | case5 => cases read
  | case6 => cases read
  | case7 => cases read
  | case8 => cases read
  | case9 request lexeme name isName noFlag separator isColon content rest text isValue ih =>
      obtain ⟨complete, headers, flags, tokens, -, same⟩ := ih read
      obtain ⟨value, spelled, rfl⟩ := exists_value isValue
      refine ⟨complete, (name, value) :: headers, flags, ?_, fun flagged => absurd flagged noFlag,
        same⟩
      simp only [ne_eq, Decidable.not_not] at isColon
      simpa [fieldTokens, headerTokens, isName, isColon, spelled] using tokens
  | case10 => cases read

private theorem readFields_complete {lexing : Lexing} (complete : lexing.ending = .complete)
    {request : Request} {lexemes : List Lexeme} {headers : List (String × Value)}
    {flags : List String} (noFlag : headers ≠ [] → request.flags.names = [])
    (tokens : lexemes.map (·.token) = fieldTokens headers flags) :
    readFields lexing request lexemes =
      .ok (request.withFields (headerTexts headers) flags) := by
  induction headers generalizing request lexemes with
  | nil =>
      induction flags generalizing request lexemes with
      | nil =>
          cases lexemes with
          | nil => simp only [readFields, complete]; rfl
          | cons lexeme rest => simp [fieldTokens] at tokens
      | cons name flags ih =>
          obtain ⟨lexeme, rest, rfl, isFlag, tokens⟩ := List.map_eq_cons_iff.mp tokens
          rw [readFields, isFlag]
          exact ih (fun absent => absurd rfl absent) tokens
  | cons header headers ih =>
      obtain ⟨name, value⟩ := header
      simp only [fieldTokens, headerTokens, List.flatMap_cons, List.cons_append,
        List.nil_append] at tokens
      obtain ⟨lexeme, rest, rfl, isName, tokens⟩ := List.map_eq_cons_iff.mp tokens
      obtain ⟨separator, rest, rfl, isColon, tokens⟩ := List.map_eq_cons_iff.mp tokens
      obtain ⟨content, rest, rfl, isValue, tokens⟩ := List.map_eq_cons_iff.mp tokens
      have unflagged := noFlag (List.cons_ne_nil _ _)
      simp only [readFields, isName, isColon, isValue, value?_token, unflagged, ne_eq,
        not_true_eq_false, ↓reduceIte]
      exact ih (fun _ => unflagged) tokens

private theorem readFields_ok_iff {lexing : Lexing} {request result : Request}
    {lexemes : List Lexeme} (noFlag : request.flags.names = []) :
    readFields lexing request lexemes = .ok result ↔ lexing.ending = .complete ∧
      ∃ headers flags, lexemes.map (·.token) = fieldTokens headers flags ∧
        result = request.withFields (headerTexts headers) flags := by
  constructor
  · intro read
    obtain ⟨complete, headers, flags, tokens, -, same⟩ := readFields_sound read
    exact ⟨complete, headers, flags, tokens, same⟩
  · rintro ⟨complete, headers, flags, tokens, rfl⟩
    exact readFields_complete complete (fun _ => noFlag) tokens

/-- The request that a sentence stands for. -/
def Sentence.request (sentence : Sentence) : Request :=
  (bare sentence.method sentence.url.text).withFields (headerTexts sentence.headers)
    sentence.flags

private theorem ofLexing_ok_iff {lexing : Lexing} {result : Request} :
    ofLexing lexing = .ok result ↔ lexing.ending = .complete ∧
      ∃ sentence : Sentence, lexing.tokens = sentence.tokens ∧ sentence.url.text ≠ "" ∧
        result = sentence.request := by
  obtain ⟨lexemes, ending, size⟩ := lexing
  constructor
  · intro read
    simp only [ofLexing] at read
    split at read
    · cases read
    · next first rest =>
        split at read
        · next method isMethod =>
            split at read
            · cases read
            · next second fields =>
                split at read
                · cases read
                · next url isUrl =>
                    split at read
                    · cases read
                    · next notEmpty =>
                        obtain ⟨complete, headers, flags, tokens, same⟩ :=
                          (readFields_ok_iff rfl).mp read
                        obtain ⟨value, spelled, rfl⟩ := exists_value isUrl
                        refine ⟨complete, ⟨method, value, headers, flags⟩, ?_, notEmpty, same⟩
                        simp [Lexing.tokens, Sentence.tokens, isMethod, spelled, tokens]
        · cases read
  · rintro ⟨complete, ⟨method, value, headers, flags⟩, tokens, notEmpty, rfl⟩
    simp only [Lexing.tokens, Sentence.tokens] at tokens
    obtain ⟨first, rest, rfl, isMethod, tokens⟩ := List.map_eq_cons_iff.mp tokens
    obtain ⟨second, fields, rfl, isUrl, tokens⟩ := List.map_eq_cons_iff.mp tokens
    simp only [ofLexing, isMethod, isUrl, value?_token, if_neg notEmpty]
    exact (readFields_ok_iff rfl).mpr ⟨complete, headers, flags, tokens, rfl⟩

private theorem names_putAll (headers : List (String × String)) :
    (HeaderTable.empty.putAll headers).entries.map Prod.fst =
      (headers.map Prod.fst).eraseDups := by
  induction headers using List.reverseRecOn with
  | nil => rfl
  | append_singleton headers header ih =>
      simp only [HeaderTable.putAll, List.foldl_append, List.foldl_cons, List.foldl_nil,
        HeaderTable.entries_put, map_fst_putEntry] at ih ⊢
      rw [ih, List.map_append, List.eraseDups_append]
      split
      · next present =>
          simp [List.removeAll, List.mem_eraseDups.mp present]
      · next absent =>
          have new : header.1 ∉ headers.map Prod.fst := fun present =>
            absent (List.mem_eraseDups.mpr present)
          simp [List.removeAll, new, List.eraseDups_cons]

private theorem mem_putAll (headers : List (String × String)) (name value : String) :
    (name, value) ∈ (HeaderTable.empty.putAll headers).entries ↔
      ∃ earlier later, headers = earlier ++ (name, value) :: later ∧
        name ∉ later.map Prod.fst := by
  induction headers using List.reverseRecOn with
  | nil => simp [HeaderTable.putAll]
  | append_singleton headers header ih =>
      obtain ⟨last, content⟩ := header
      have step : (HeaderTable.empty.putAll (headers ++ [(last, content)])).entries =
          putEntry last content (HeaderTable.empty.putAll headers).entries := by
        simp [HeaderTable.putAll]
      rw [step, mem_putEntry (HeaderTable.empty.putAll headers).names_nodup, ih]
      constructor
      · rintro (⟨rfl, rfl⟩ | ⟨different, earlier, later, rfl, notLater⟩)
        · exact ⟨headers, [], rfl, by simp⟩
        · exact ⟨earlier, later ++ [(last, content)], by simp, by simp [different, notLater]⟩
      · rintro ⟨earlier, later, split, notLater⟩
        rcases List.eq_nil_or_concat later with rfl | ⟨later, header, rfl⟩
        · obtain ⟨rfl, same⟩ := List.append_inj' split rfl
          cases same
          exact .inl ⟨rfl, rfl⟩
        · rw [List.concat_eq_append, ← List.cons_append, ← List.append_assoc] at split
          obtain ⟨rfl, same⟩ := List.append_inj' split rfl
          cases same
          simp only [List.concat_eq_append, List.map_append, List.map_cons, List.map_nil,
            List.mem_append, List.mem_singleton, not_or] at notLater
          exact .inr ⟨notLater.2, earlier, later, rfl, notLater.1⟩

private theorem has_addAll (flags : FlagSet) (names : List String) (name : String) :
    (flags.addAll names).has name = true ↔ name ∈ names ∨ flags.has name = true := by
  induction names generalizing flags with
  | nil => simp [FlagSet.addAll]
  | cons other names ih =>
      have added : (flags.add other).has name = true ↔
          name = other ∨ flags.has name = true := by
        simp only [FlagSet.has, List.contains_iff_mem, FlagSet.mem_names_add]
      have split : (flags.addAll (other :: names)) = (flags.add other).addAll names := rfl
      rw [split, ih, added, List.mem_cons]
      tauto

theorem Sentence.says_request (sentence : Sentence) : sentence.Says sentence.request where
  method := rfl
  url := rfl
  names := by
    have same : (headerTexts sentence.headers).map Prod.fst = sentence.headers.map Prod.fst := by
      simp [headerTexts]
    exact same ▸ names_putAll (headerTexts sentence.headers)
  values := mem_putAll (headerTexts sentence.headers)
  flags := fun name =>
    (has_addAll .empty sentence.flags name).trans (or_iff_left (by simp [FlagSet.has]))

/-- Flags are kept in one order, so that a set of flags is known by its members. -/
theorem FlagSet.eq_of_has_iff {left right : FlagSet}
    (same : ∀ name, left.has name = true ↔ right.has name = true) : left = right := by
  obtain ⟨names, ascending⟩ := left
  obtain ⟨others, othersAscending⟩ := right
  simp only [FlagSet.has, List.contains_iff_mem] at same
  simp only [FlagSet.mk.injEq]
  exact ascending.eq_of_mem_iff othersAscending same

private theorem flag_mem_tokens {sentence : Sentence} {name : String} :
    .flag name ∈ sentence.tokens ↔ name ∈ sentence.flags := by
  obtain ⟨method, url, headers, flags⟩ := sentence
  have notUrl : Token.flag name ≠ url.token := by
    cases url <;> simp [Value.token]
  have notHeader : ∀ header ∈ headers, .flag name ∉ headerTokens header := by
    rintro ⟨_, value⟩ -
    cases value <;> simp [headerTokens, Value.token]
  simp only [Sentence.tokens, fieldTokens, List.mem_cons, List.mem_append, List.mem_flatMap,
    List.mem_map, Token.flag.injEq, exists_eq_right, reduceCtorEq, false_or, notUrl]
  constructor
  · rintro (⟨header, member, misplaced⟩ | member)
    · exact absurd misplaced (notHeader header member)
    · exact member
  · exact .inr

theorem parse_ok_iff_written {text : String} {request : Request} :
    parse text = .ok request ↔
      ∃ sentence : Sentence, sentence.IsWrittenIn text ∧ request = sentence.request := by
  refine ofLexing_ok_iff.trans ⟨?_, ?_⟩
  · rintro ⟨complete, sentence, tokens, url, same⟩
    exact ⟨sentence, ⟨complete, tokens, url⟩, same⟩
  · rintro ⟨sentence, written, same⟩
    exact ⟨written.complete, sentence, written.tokens, written.url, same⟩

/-- A text is accepted exactly if it is written as a sentence, and then the request is what the
sentence says. Neither the order nor the repetition of flags makes a difference. -/
theorem parse_accepts_sentences (text : String) :
    ((∃ request, parse text = .ok request) ↔
      ∃ sentence : Sentence, sentence.IsWrittenIn text) ∧
    (∀ (request : Request) (sentence : Sentence), parse text = .ok request →
      sentence.IsWrittenIn text → sentence.Says request) ∧
    (∀ (other : String) (request otherRequest : Request), parse text = .ok request →
      parse other = .ok otherRequest →
      (∀ name, .flag name ∈ (lex text).tokens ↔ .flag name ∈ (lex other).tokens) →
      request.flags = otherRequest.flags) := by
  refine ⟨⟨?_, ?_⟩, ?_, ?_⟩
  · rintro ⟨request, read⟩
    obtain ⟨sentence, written, -⟩ := parse_ok_iff_written.mp read
    exact ⟨sentence, written⟩
  · rintro ⟨sentence, written⟩
    exact ⟨_, parse_ok_iff_written.mpr ⟨sentence, written, rfl⟩⟩
  · intro request sentence read written
    have same := parse_ok_iff_written.mpr ⟨sentence, written, rfl⟩
    rw [read] at same
    cases same
    exact sentence.says_request
  · intro other request otherRequest read otherRead same
    obtain ⟨sentence, written, rfl⟩ := parse_ok_iff_written.mp read
    obtain ⟨otherSentence, otherWritten, rfl⟩ := parse_ok_iff_written.mp otherRead
    refine FlagSet.eq_of_has_iff fun name => ?_
    rw [sentence.says_request.flags, otherSentence.says_request.flags, ← flag_mem_tokens,
      ← flag_mem_tokens, ← written.tokens, ← otherWritten.tokens]
    exact same name

example : (parse "GET x A: 1 B: 2 A: \x223\x22 -b -a -b").toOption.map (·.headers.entries) =
    some [("A", "3"), ("B", "2")] := by
  decide +kernel

end HttpConsole.Request
