import HttpConsole.Text.Offset

/-!
# Tokens of a request text

A request is written as words, quoted texts, flags and colons. Blanks separate tokens and mean
nothing else, and a `#` where a token may begin starts a comment up to the end of its line.
Positions are byte offsets into the text.
-/

set_option autoImplicit false

namespace HttpConsole.Request

inductive Token where
  | word (text : String)
  /-- A text that stood between double quotes, taken as it is. -/
  | quoted (text : String)
  /-- A flag, without its dash. -/
  | flag (name : String)
  /-- The sign between the name and the value of a header. -/
  | colon
deriving DecidableEq, Repr

def Token.describe : Token → String
  | .word text => "word `" ++ text ++ "`"
  | .quoted text => "quoted string \"" ++ text ++ "\""
  | .flag name => "flag `-" ++ name ++ "`"
  | .colon => "`:`"

/-- A token and the stretch of text it was read from. -/
structure Lexeme where
  token : Token
  start : Nat
  stop : Nat
deriving DecidableEq, Repr

inductive Ending where
  | complete
  /-- A quote that was opened at `start` is never closed. -/
  | openQuote (start : Nat)
deriving DecidableEq, Repr

def Ending.describe : String := "end of input"

/-- All that a request text consists of: its tokens in order and the way it ends after `size`
bytes. -/
structure Lexing where
  lexemes : List Lexeme
  ending : Ending
  size : Nat
deriving DecidableEq, Repr

def Lexing.cons (lexeme : Lexeme) (lexing : Lexing) : Lexing :=
  { lexing with lexemes := lexeme :: lexing.lexemes }

def Lexing.tokens (lexing : Lexing) : List Token :=
  lexing.lexemes.map (·.token)

@[simp] theorem Lexing.lexemes_cons (lexeme : Lexeme) (lexing : Lexing) :
    (lexing.cons lexeme).lexemes = lexeme :: lexing.lexemes := rfl

@[simp] theorem Lexing.ending_cons (lexeme : Lexeme) (lexing : Lexing) :
    (lexing.cons lexeme).ending = lexing.ending := rfl

@[simp] theorem Lexing.size_cons (lexeme : Lexeme) (lexing : Lexing) :
    (lexing.cons lexeme).size = lexing.size := rfl

@[simp] theorem Lexing.tokens_cons (lexeme : Lexeme) (lexing : Lexing) :
    (lexing.cons lexeme).tokens = lexeme.token :: lexing.tokens := rfl

end HttpConsole.Request
