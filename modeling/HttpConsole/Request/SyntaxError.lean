import HttpConsole.Request.Token
import HttpConsole.Text.Quoted

/-!
# Syntax errors

Why a text is no request, and the byte offset at which this shows.
-/

set_option autoImplicit false

namespace HttpConsole.Request

/-- A place of the grammar where a token of certain kinds has to stand. -/
inductive Slot where
  | method
  | url
  | headerColon
  | headerValue
  | headerOrFlag
deriving DecidableEq, Repr

def Slot.describe : Slot → String
  | .method => "method"
  | .url => "url"
  | .headerColon => "`:` after header name"
  | .headerValue => "header value"
  | .headerOrFlag => "header name or flag"

inductive SyntaxFault where
  | unterminatedQuote
  | unexpectedEnd (expected : Slot)
  | unexpectedToken (expected : Slot) (found : Token)
  | headerAfterFlag
  | emptyUrl
deriving DecidableEq, Repr

structure SyntaxError where
  fault : SyntaxFault
  offset : Nat
deriving DecidableEq, Repr

def SyntaxFault.name : SyntaxFault → String
  | .unterminatedQuote => "UnterminatedQuote"
  | .unexpectedEnd _ => "UnexpectedEof"
  | .unexpectedToken _ _ => "UnexpectedToken"
  | .headerAfterFlag => "HeaderAfterFlag"
  | .emptyUrl => "EmptyUrl"

def SyntaxFault.describe (fault : SyntaxFault) : String :=
  match fault with
  | .unexpectedEnd expected =>
      fault.name ++ " \x7b expected: " ++ Text.quote expected.describe ++ " \x7d"
  | .unexpectedToken expected found =>
      fault.name ++ " \x7b expected: " ++ Text.quote expected.describe ++
        ", found: " ++ Text.quote found.describe ++ " \x7d"
  | _ => fault.name

def SyntaxError.message (error : SyntaxError) : String :=
  "syntax error at byte " ++ toString error.offset ++ ": " ++ error.fault.describe

end HttpConsole.Request
