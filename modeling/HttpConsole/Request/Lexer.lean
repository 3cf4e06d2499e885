import HttpConsole.Request.Token

/-!
# Reading tokens

`readToken` reads the next token behind blanks and comments. Each token is the longest one that
its first character allows: a word runs to the next blank or colon, a flag to the next blank, a
quoted text to the next quote. `lex` reads a whole request text, token by token.
-/

set_option autoImplicit false

namespace HttpConsole.Request

open HttpConsole.Text (byteLength)

def isBlank (char : Char) : Bool :=
  char == ' ' || char == '\n' || char == '\t' || char == '\r'

/-- The characters that a word may hold behind its first one. -/
def isWordChar (char : Char) : Bool :=
  !isBlank char && char != ':'

def isFlagChar (char : Char) : Bool :=
  !isBlank char

def quoteMark : Char := '\x22'

theorem length_dropWhile_le {α : Type} (test : α → Bool) (items : List α) :
    (items.dropWhile test).length ≤ items.length :=
  (List.dropWhile_sublist test).length_le

/-- What reading one token from a place in a text comes to. -/
inductive Reading where
  /-- A token, with the text behind it. -/
  | token (lexeme : Lexeme) (rest : List Char)
  /-- A quote that is never closed, which uses the text up. -/
  | openQuote (start stop : Nat)
  | finished (size : Nat)
deriving DecidableEq, Repr

/-- Reads the next token of a text whose first character stands at byte `offset`. -/
def readToken (offset : Nat) : List Char → Reading
  | [] => .finished offset
  | char :: rest =>
      let next := offset + char.utf8Size
      if isBlank char then
        readToken next rest
      else if char = '#' then
        let comment := next + byteLength (rest.takeWhile (· != '\n'))
        match _found : rest.dropWhile (· != '\n') with
        | [] => .finished comment
        | newline :: behind => readToken (comment + newline.utf8Size) behind
      else if char = ':' then
        .token { token := .colon, start := offset, stop := next } rest
      else if char = quoteMark then
        let content := rest.takeWhile (· != quoteMark)
        let close := next + byteLength content
        match rest.dropWhile (· != quoteMark) with
        | [] => .openQuote offset close
        | mark :: behind =>
            let token := Token.quoted (String.ofList content)
            .token { token := token, start := offset, stop := close + mark.utf8Size } behind
      else if char = '-' then
        let name := rest.takeWhile isFlagChar
        let token := Token.flag (String.ofList name)
        .token { token := token, start := offset, stop := next + byteLength name }
          (rest.dropWhile isFlagChar)
      else
        let text := char :: rest.takeWhile isWordChar
        let token := Token.word (String.ofList text)
        .token { token := token, start := offset, stop := offset + byteLength text }
          (rest.dropWhile isWordChar)
termination_by text => text.length
decreasing_by
  · simp only [List.length_cons]; omega
  · have := length_dropWhile_le (· != '\n') rest
    rw [_found, List.length_cons] at this
    simp only [List.length_cons]; omega

theorem length_rest_lt {offset : Nat} {text rest : List Char} {lexeme : Lexeme}
    (read : readToken offset text = .token lexeme rest) : rest.length < text.length := by
  fun_induction readToken offset text with
  | case1 => cases read
  | case2 _ _ _ _ _ ih => exact Nat.lt_succ_of_lt (ih read)
  | case3 => cases read
  | case4 _ behind _ _ found _ _ _ ih =>
      have dropped := length_dropWhile_le (· != '\n') behind
      rw [found, List.length_cons] at dropped
      have shorter := ih read
      simp only [List.length_cons]; omega
  | case5 => cases read; exact Nat.lt_succ_self _
  | case6 => cases read
  | case7 _ behind _ _ _ found =>
      have dropped := length_dropWhile_le (· != quoteMark) behind
      rw [found, List.length_cons] at dropped
      cases read
      simp only [List.length_cons]; omega
  | case8 _ behind =>
      cases read
      exact Nat.lt_succ_of_le (length_dropWhile_le isFlagChar behind)
  | case9 _ _ behind =>
      cases read
      exact Nat.lt_succ_of_le (length_dropWhile_le isWordChar behind)

/-- Reads the tokens of a text whose first character stands at byte `offset`. -/
def lexFrom (offset : Nat) (text : List Char) : Lexing :=
  match _read : readToken offset text with
  | .finished size => { lexemes := [], ending := .complete, size := size }
  | .openQuote start stop => { lexemes := [], ending := .openQuote start, size := stop }
  | .token lexeme rest => (lexFrom lexeme.stop rest).cons lexeme
termination_by text.length
decreasing_by exact length_rest_lt _read

theorem lexFrom_of_token {offset : Nat} {text rest : List Char} {lexeme : Lexeme}
    (read : readToken offset text = .token lexeme rest) :
    lexFrom offset text = (lexFrom lexeme.stop rest).cons lexeme := by
  rw [lexFrom]
  split
  · next found => rw [read] at found; cases found
  · next found => rw [read] at found; cases found
  · next found => rw [read] at found; cases found; rfl

theorem lexFrom_of_openQuote {offset start stop : Nat} {text : List Char}
    (read : readToken offset text = .openQuote start stop) :
    lexFrom offset text = { lexemes := [], ending := .openQuote start, size := stop } := by
  rw [lexFrom]
  split
  · next found => rw [read] at found; cases found
  · next found => rw [read] at found; cases found; rfl
  · next found => rw [read] at found; cases found

theorem lexFrom_of_finished {offset size : Nat} {text : List Char}
    (read : readToken offset text = .finished size) :
    lexFrom offset text = { lexemes := [], ending := .complete, size := size } := by
  rw [lexFrom]
  split
  · next found => rw [read] at found; cases found; rfl
  · next found => rw [read] at found; cases found
  · next found => rw [read] at found; cases found

def lex (text : String) : Lexing :=
  lexFrom 0 text.toList

end HttpConsole.Request
