import HttpConsole.Request.SyntaxError
import HttpConsole.Url.Basic

/-!
# Failures

Everything that can keep a request text from giving a report, and what the reader is told.
-/

set_option autoImplicit false

namespace HttpConsole.Exchange

inductive HeaderFault where
  | name
  | value
deriving DecidableEq, Repr

def HeaderFault.describe : HeaderFault → String
  | .name => "invalid HTTP header name"
  | .value => "failed to parse header value"

/-- An error that comes from what sends the requests: its own text, the texts of its causes, and
what kind of error it says it is. -/
structure LibraryError where
  text : String
  causes : List String := []
  isTimeout : Bool := false
  isConnect : Bool := false
deriving DecidableEq, Repr

def LibraryError.withCauses (error : LibraryError) : String :=
  ": ".intercalate (error.text :: error.causes)

def LibraryError.describeTransport (error : LibraryError) : String :=
  if error.isTimeout then "Request timed out: " ++ error.withCauses
  else if error.isConnect then "Connection failed: " ++ error.withCauses
  else "Request failed: " ++ error.withCauses

inductive Failure where
  | unreadable (error : Request.SyntaxError)
  | invalidMethod (method : String)
  | invalidUrl (url : String) (fault : Url.Fault)
  | invalidHeader (name : String) (fault : HeaderFault)
  | client (error : LibraryError)
  | transport (error : LibraryError)
  | body (error : LibraryError)
deriving DecidableEq, Repr

def Failure.message : Failure → String
  | .unreadable _ => "please enter a valid query"
  | .invalidMethod method => "invalid method: " ++ method
  | .invalidUrl url fault => "invalid url " ++ url ++ ": " ++ fault.describe
  | .invalidHeader name fault => "invalid header " ++ name ++ ": " ++ fault.describe
  | .client error => "could not configure HTTP client: " ++ error.text
  | .transport error => error.describeTransport
  | .body error => "error reading body: " ++ error.withCauses

/-- What stops a request from being built: a failure, which is told, or a crash, of which nobody
is told. -/
inductive Halt where
  | failure (failure : Failure)
  | crash
deriving DecidableEq, Repr

end HttpConsole.Exchange
