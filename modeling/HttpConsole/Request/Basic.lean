import HttpConsole.Request.FlagSet
import HttpConsole.Request.HeaderTable

/-!
# Requests

What a request text asks for: a method, a URL, headers and flags. Two flags have a meaning; all
others are kept without effect.
-/

set_option autoImplicit false

/-- A request as it was written, before its parts are checked. -/
structure HttpConsole.Request where
  method : String
  url : String
  headers : HttpConsole.Request.HeaderTable
  flags : HttpConsole.Request.FlagSet

namespace HttpConsole.Request

def insecureFlag : String := "insecure"

def locationFlag : String := "location"

def bare (method url : String) : Request :=
  { method := method, url := url, headers := .empty, flags := .empty }

def withHeader (request : Request) (name value : String) : Request :=
  { request with headers := request.headers.put name value }

def withFlag (request : Request) (name : String) : Request :=
  { request with flags := request.flags.add name }

/-- The host that the request asks for in place of that of its URL. -/
def hostOverride? (request : Request) : Option String :=
  request.headers.findIgnoringCase? "host"

def isInsecure (request : Request) : Bool :=
  request.flags.has insecureFlag

def followsRedirects (request : Request) : Bool :=
  request.flags.has locationFlag

theorem names_withFlag_ne_nil (request : Request) (name : String) :
    (request.withFlag name).flags.names ≠ [] := by
  intro empty
  have member : name ∈ (request.withFlag name).flags.names := FlagSet.mem_names_add.mpr (.inl rfl)
  rw [empty] at member
  cases member

end HttpConsole.Request
