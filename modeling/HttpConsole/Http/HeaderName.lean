import HttpConsole.Http.Token
import HttpConsole.Text.Case

/-!
# Header names

Header names are equal whatever their case. On the wire they are written small; for a reader the
first letter and each letter after a dash are capital.
-/

set_option autoImplicit false

namespace HttpConsole.Http

def maxHeaderNameLength : Nat := 65535

def isHeaderName (name : String) : Bool :=
  isToken name && name.length ≤ maxHeaderNameLength

/-- The form of a header name for a reader, where `capital` says whether the next character
begins a part. -/
def canonicalChars (capital : Bool) : List Char → List Char
  | [] => []
  | char :: rest =>
      (if capital then Text.upper char else Text.lower char) ++ canonicalChars (char == '-') rest

def canonicalName (name : String) : String :=
  String.ofList (canonicalChars true name.toList)

end HttpConsole.Http
