import HttpConsole.Proofs.Request.Continuation
import HttpConsole.Proofs.Request.Grammar

/-! The requests that can be written. The tokens of a text have texts of certain shapes, and tokens
of these shapes can be written one behind the other, with a blank in front of each, and are read
back. So a request can be written if and only if its parts have the shapes of the tokens that stand
for them. -/

set_option autoImplicit false

namespace HttpConsole.Request

/-- A text that can stand as a word: not empty, without blanks and colons, and without a first
character that begins something else. -/
structure IsWordShaped (text : String) : Prop where
  nonempty : text ≠ ""
  inside : ∀ char ∈ text.toList, isBlank char = false ∧ char ≠ ':'
  start : ∀ char, text.toList.head? = some char → char ≠ quoteMark ∧ char ≠ '#' ∧ char ≠ '-'

/-- A text that can stand as a word or between quotes, where nothing is escaped. -/
def IsValueShaped (text : String) : Prop :=
  IsWordShaped text ∨ quoteMark ∉ text.toList

def IsFlagShaped (name : String) : Prop :=
  ∀ char ∈ name.toList, isBlank char = false

/-- A request of which each part has the shape of a token that may stand for it. -/
structure IsWritable (request : Request) : Prop where
  method : IsWordShaped request.method
  url_nonempty : request.url ≠ ""
  url : IsValueShaped request.url
  names : ∀ header ∈ request.headers.entries, IsWordShaped header.1
  values : ∀ header ∈ request.headers.entries, IsValueShaped header.2
  flags : ∀ name ∈ request.flags.names, IsFlagShaped name

/-! ## Tokens -/

namespace Token

def IsShaped : Token → Prop
  | .word text => IsWordShaped text
  | .quoted text => quoteMark ∉ text.toList
  | .flag name => IsFlagShaped name
  | .colon => True

/-- The stretch of text that a token is read from. -/
def spelling : Token → List Char
  | .word text => text.toList
  | .quoted text => quoteMark :: text.toList ++ [quoteMark]
  | .flag name => '-' :: name.toList
  | .colon => [':']

end Token

private theorem isWordChar_eq_true {char : Char} :
    isWordChar char = true ↔ isBlank char = false ∧ char ≠ ':' := by
  simp [isWordChar]

theorem Spells.isShaped {token : Token} {content after : List Char}
    (spells : Spells token content after) : token.IsShaped := by
  cases spells with
  | @word first rest _ notComment notQuote notDash run =>
      refine { nonempty := by simp, inside := fun char member => ?_, start := fun char head => ?_ }
      · rw [String.toList_ofList] at member
        exact isWordChar_eq_true.mp (run char member)
      · rw [String.toList_ofList] at head
        cases head
        exact ⟨notQuote, notComment, notDash⟩
  | quoted closed => simpa [Token.IsShaped] using closed
  | flag run => simpa [Token.IsShaped, IsFlagShaped, isFlagChar] using run
  | colon => trivial

/-- A token of the right shape is read from its spelling if a blank or nothing follows. -/
theorem Token.IsShaped.spells {token : Token} (shaped : token.IsShaped) {after : List Char}
    (blank : ∀ char, after.head? = some char → isBlank char = true) :
    Spells token token.spelling after := by
  cases token with
  | word text =>
      cases content : text.toList with
      | nil => exact absurd (String.toList_eq_nil_iff.mp content) shaped.nonempty
      | cons first rest =>
          have start := shaped.start first (by rw [content]; rfl)
          have run : ∀ char ∈ first :: rest, isWordChar char = true := fun char member =>
            isWordChar_eq_true.mpr (shaped.inside char (content ▸ member))
          have spells : Spells _ _ after := .word start.2.1 start.1 start.2.2 run fun char head =>
            isWordChar_of_blank (blank char head)
          rwa [← content, String.ofList_toList] at spells
  | quoted text =>
      have spells : Spells _ _ after := .quoted shaped
      rwa [String.ofList_toList] at spells
  | flag name =>
      have run : ∀ char ∈ name.toList, isFlagChar char = true := fun char member => by
        rw [isFlagChar, shaped char member, Bool.not_false]
      have spells : Spells _ _ after := .flag run fun char head =>
        isFlagChar_of_blank (blank char head)
      rwa [String.ofList_toList] at spells
  | colon => exact .colon

theorem isShaped_of_mem_lexFrom {offset : Nat} {text : List Char} {token : Token}
    (member : token ∈ (lexFrom offset text).tokens) : token.IsShaped := by
  fun_induction lexFrom offset text with
  | case1 => cases member
  | case2 => cases member
  | case3 offset text lexeme rest read ih =>
      rw [Lexing.tokens_cons, List.mem_cons] at member
      rcases member with rfl | later
      · have reads := readToken_reads offset text
        rw [read] at reads
        cases reads with
        | token _ spells => exact spells.isShaped
      · exact ih later

def writeTokens (tokens : List Token) : List Char :=
  tokens.flatMap fun token => ' ' :: token.spelling

private theorem isBlank_of_head_writeTokens {tokens : List Token} {char : Char}
    (head : (writeTokens tokens).head? = some char) : isBlank char = true := by
  cases tokens with
  | nil => cases head
  | cons token rest =>
      cases head
      rfl

/-- Tokens that are written are read back, whatever they are. -/
theorem lexFrom_writeTokens {tokens : List Token} (shaped : ∀ token ∈ tokens, token.IsShaped)
    (offset : Nat) : (lexFrom offset (writeTokens tokens)).tokens = tokens ∧
      (lexFrom offset (writeTokens tokens)).ending = .complete := by
  induction tokens generalizing offset with
  | nil =>
      rw [writeTokens, List.flatMap_nil, lexFrom_of_finished (readToken_nil offset)]
      exact ⟨rfl, rfl⟩
  | cons token rest ih =>
      have spells : Spells token token.spelling (writeTokens rest) :=
        (shaped token List.mem_cons_self).spells fun char => isBlank_of_head_writeTokens
      have read := readToken_token (.blank rfl .empty : IsGap [' '] _) spells offset
      obtain ⟨tokens, complete⟩ := ih (fun other member =>
        shaped other (List.mem_cons_of_mem token member)) _
      have split : writeTokens (token :: rest) =
          [' '] ++ (token.spelling ++ writeTokens rest) := rfl
      rw [split, lexFrom_of_token read, Lexing.tokens_cons, Lexing.ending_cons, tokens]
      exact ⟨rfl, complete⟩

/-! ## Requests -/

/-- The way to write a text that works for every text that can be written at all. -/
def Value.ofText (text : String) : Value :=
  if quoteMark ∈ text.toList then .bare text else .quoted text

@[simp] theorem Value.text_ofText (text : String) : (Value.ofText text).text = text := by
  unfold ofText
  split <;> rfl

theorem Value.isShaped_ofText {text : String} (shaped : IsValueShaped text) :
    (Value.ofText text).token.IsShaped := by
  unfold ofText
  split
  · next quoted => exact shaped.resolve_right (not_not_intro quoted)
  · next unquoted => exact unquoted

theorem Value.isValueShaped_text {value : Value} (shaped : value.token.IsShaped) :
    IsValueShaped value.text := by
  cases value with
  | bare text => exact .inl shaped
  | quoted text => exact .inr shaped

/-- A request as a sentence, with each header and each flag once. -/
def sentence (request : Request) : Sentence :=
  { method := request.method
    url := .ofText request.url
    headers := request.headers.entries.map fun header => (header.1, .ofText header.2)
    flags := request.flags.names }

def written (request : Request) : String :=
  String.ofList (writeTokens request.sentence.tokens)

private theorem putEntry_of_not_mem {name : String} (value : String)
    {entries : List (String × String)} (absent : name ∉ entries.map Prod.fst) :
    putEntry name value entries = entries ++ [(name, value)] := by
  induction entries with
  | nil => rfl
  | cons entry rest ih =>
      rw [List.map_cons, List.mem_cons, not_or] at absent
      rw [putEntry, if_neg (Ne.symm absent.1), ih absent.2]
      rfl

theorem HeaderTable.entries_putAll {headers : List (String × String)}
    (unique : (headers.map Prod.fst).Nodup) :
    (HeaderTable.empty.putAll headers).entries = headers := by
  induction headers using List.reverseRecOn with
  | nil => rfl
  | append_singleton headers header ih =>
      rw [List.map_append, List.nodup_append] at unique
      obtain ⟨earlier, -, apart⟩ := unique
      have absent : header.1 ∉ headers.map Prod.fst := fun present =>
        apart header.1 present header.1 (by simp) rfl
      have step : (HeaderTable.empty.putAll (headers ++ [header])).entries =
          putEntry header.1 header.2 (HeaderTable.empty.putAll headers).entries := by
        simp [HeaderTable.putAll]
      rw [step, ih earlier, putEntry_of_not_mem header.2 absent]

theorem request_sentence (request : Request) : request.sentence.request = request := by
  obtain ⟨method, url, ⟨entries, unique⟩, flags⟩ := request
  have texts : headerTexts (entries.map fun header => (header.1, Value.ofText header.2)) =
      entries := by
    simp [headerTexts, Function.comp_def]
  have table : HeaderTable.empty.putAll entries = ⟨entries, unique⟩ := by
    rw [HeaderTable.mk.injEq]
    exact HeaderTable.entries_putAll unique
  have set : FlagSet.empty.addAll flags.names = flags := FlagSet.eq_of_has_iff fun name => by
    have meant := (Sentence.says_request ⟨method, .bare url, [], flags.names⟩).flags name
    exact meant.trans List.contains_iff_mem.symm
  simp only [sentence, Sentence.request, bare, withFields, texts, table, set, Value.text_ofText]

private theorem isShaped_of_mem_tokens {sentence : Sentence} {text : String}
    (written : sentence.IsWrittenIn text) : ∀ token ∈ sentence.tokens, token.IsShaped := by
  intro token member
  rw [← written.tokens] at member
  exact isShaped_of_mem_lexFrom member

private theorem mem_tokens_of_header {sentence : Sentence} {header : String × Value}
    (member : header ∈ sentence.headers) :
    .word header.1 ∈ sentence.tokens ∧ header.2.token ∈ sentence.tokens := by
  have inside : ∀ token ∈ headerTokens header, token ∈ sentence.tokens := fun token present =>
    List.mem_cons_of_mem _ (List.mem_cons_of_mem _ (List.mem_append_left _
      (List.mem_flatMap.mpr ⟨header, member, present⟩)))
  exact ⟨inside _ (by simp [headerTokens]), inside _ (by simp [headerTokens])⟩

theorem isWritable_of_parse {text : String} {request : Request}
    (read : parse text = .ok request) : request.IsWritable := by
  obtain ⟨sentence, written, rfl⟩ := parse_ok_iff_written.mp read
  have shaped := isShaped_of_mem_tokens written
  have meant := sentence.says_request
  have header : ∀ entry ∈ sentence.request.headers.entries,
      IsWordShaped entry.1 ∧ IsValueShaped entry.2 := by
    intro entry member
    -- The value that is kept of a name is one of those that are written for it.
    obtain ⟨earlier, later, split, -⟩ := (meant.values entry.1 entry.2).mp member
    have present : entry ∈ headerTexts sentence.headers := by
      rw [split]
      exact List.mem_append_right _ List.mem_cons_self
    obtain ⟨header, listed, rfl⟩ := List.mem_map.mp present
    obtain ⟨name, value⟩ := mem_tokens_of_header listed
    exact ⟨shaped _ name, Value.isValueShaped_text (shaped _ value)⟩
  exact {
    method := shaped (.word sentence.method) List.mem_cons_self
    url_nonempty := written.url
    url := Value.isValueShaped_text (shaped _ (List.mem_cons_of_mem _ List.mem_cons_self))
    names := fun entry member => (header entry member).1
    values := fun entry member => (header entry member).2
    flags := fun name member => by
      have flagged := (meant.flags name).mp (List.contains_iff_mem.mpr member)
      exact shaped (.flag name) (List.mem_cons_of_mem _ (List.mem_cons_of_mem _
        (List.mem_append_right _ (List.mem_map.mpr ⟨name, flagged, rfl⟩)))) }

theorem IsWritable.isShaped {request : Request} (writable : request.IsWritable) :
    ∀ token ∈ request.sentence.tokens, token.IsShaped := by
  intro token member
  simp only [Sentence.tokens, sentence, fieldTokens, List.mem_cons, List.mem_append,
    List.mem_flatMap, List.mem_map] at member
  rcases member with rfl | rfl | ⟨_, ⟨header, present, rfl⟩, part⟩ | ⟨name, present, rfl⟩
  · exact writable.method
  · exact Value.isShaped_ofText writable.url
  · simp only [headerTokens, List.mem_cons, List.not_mem_nil, or_false] at part
    rcases part with rfl | rfl | rfl
    · exact writable.names header present
    · trivial
    · exact Value.isShaped_ofText (writable.values header present)
  · exact writable.flags name present

theorem parse_written {request : Request} (writable : request.IsWritable) :
    parse request.written = .ok request := by
  have lexed : lex request.written = lexFrom 0 (writeTokens request.sentence.tokens) := by
    rw [lex, written, String.toList_ofList]
  obtain ⟨tokens, complete⟩ := lexFrom_writeTokens writable.isShaped 0
  refine parse_ok_iff_written.mpr ⟨request.sentence, ?_, request.request_sentence.symm⟩
  exact {
    complete := lexed ▸ complete
    tokens := lexed ▸ tokens
    url := (Value.text_ofText request.url).symm ▸ writable.url_nonempty }

/-- A request is what some text says exactly if its method and header names have the shape of words,
its URL and header values that of words or of quoted texts, and its flags hold no blank. Only the
URL may not be empty between quotes. -/
theorem exists_text_iff_isWritable (request : Request) :
    (∃ text, parse text = .ok request) ↔ request.IsWritable := by
  constructor
  · rintro ⟨text, read⟩
    exact isWritable_of_parse read
  · intro writable
    exact ⟨request.written, parse_written writable⟩

end HttpConsole.Request
