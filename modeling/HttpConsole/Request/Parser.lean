import HttpConsole.Request.Basic
import HttpConsole.Request.Lexer
import HttpConsole.Request.SyntaxError

/-!
# Reading requests

A request is a method and a URL, then headers, then flags:

    request = word (word | quoted) header* flag*
    header  = word ":" (word | quoted)

Line breaks mean no more than blanks. Once a flag is read, another header is an error.
-/

set_option autoImplicit false

namespace HttpConsole.Request

def Lexing.endError (lexing : Lexing) (expected : Slot) : SyntaxError :=
  match lexing.ending with
  | .complete => { fault := .unexpectedEnd expected, offset := lexing.size }
  | .openQuote start => { fault := .unterminatedQuote, offset := start }

def Lexeme.misplaced (lexeme : Lexeme) (expected : Slot) : SyntaxError :=
  { fault := .unexpectedToken expected lexeme.token, offset := lexeme.start }

def Token.value? : Token → Option String
  | .word text => some text
  | .quoted text => some text
  | _ => none

/-- Reads headers and flags into a request, up to the end of the text. -/
def readFields (lexing : Lexing) (request : Request) :
    List Lexeme → Except SyntaxError Request
  | [] =>
      match lexing.ending with
      | .complete => .ok request
      | .openQuote _ => .error (lexing.endError .headerOrFlag)
  | lexeme :: rest =>
      match lexeme.token with
      | .flag name => readFields lexing (request.withFlag name) rest
      | .word name =>
          if request.flags.names ≠ [] then
            .error { fault := .headerAfterFlag, offset := lexeme.start }
          else
            match rest with
            | [] => .error (lexing.endError .headerColon)
            | separator :: behind =>
                if separator.token ≠ .colon then .error (separator.misplaced .headerColon)
                else
                  match behind with
                  | [] => .error (lexing.endError .headerValue)
                  | content :: others =>
                      match content.token.value? with
                      | none => .error (content.misplaced .headerValue)
                      | some value => readFields lexing (request.withHeader name value) others
      | _ => .error (lexeme.misplaced .headerOrFlag)

def ofLexing (lexing : Lexing) : Except SyntaxError Request :=
  match lexing.lexemes with
  | [] => .error (lexing.endError .method)
  | first :: rest =>
      match first.token with
      | .word method =>
          match rest with
          | [] => .error (lexing.endError .url)
          | second :: fields =>
              match second.token.value? with
              | none => .error (second.misplaced .url)
              | some url =>
                  if url = "" then .error { fault := .emptyUrl, offset := second.start }
                  else readFields lexing (.bare method url) fields
      | _ => .error (first.misplaced .method)

def parse (text : String) : Except SyntaxError Request :=
  ofLexing (lex text)

end HttpConsole.Request
