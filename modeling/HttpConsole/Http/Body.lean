import HttpConsole.Text.Utf8

/-!
# Bodies of responses

A body is shown as it is if it is fit for a terminal, and replaced by a notice if it is not.
-/

set_option autoImplicit false

namespace HttpConsole.Http

open HttpConsole.Text (Bytes)

/-- How a body is judged unfit for a terminal. -/
inductive BodyCheck where
  | zeroByte
  /-- Anything but well-formed UTF-8 is binary. -/
  | utf8
deriving DecidableEq, Repr

def BodyCheck.isBinary (check : BodyCheck) (body : Bytes) : Bool :=
  match check with
  | .zeroByte => body.contains 0
  | .utf8 => !Text.isWellFormed body

def bodyCheck : BodyCheck := .utf8

def binaryNotice : String := "\n\nRESPONSE CONTAINS NON-PRINTABLE CHARACTERS.\n"

def bodyText (check : BodyCheck) (body : Bytes) : String :=
  if check.isBinary body then binaryNotice else Text.decodeLossy body

end HttpConsole.Http
