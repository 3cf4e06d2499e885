import HttpConsole.Exchange.Failure
import HttpConsole.Http.HeaderMap
import HttpConsole.Request.Parser
import HttpConsole.Url.Parse

/-!
# Requests ready to be sent

Building checks the parts of a request in order: the method, the URL, then each header, name
before value. The first fault is reported. What is built carries the policy that the flags ask
for, and last of all what sends requests is set up by this policy.

How domain names are brought into ASCII, how many headers a header map holds and how the sender is
set up is not decided here: building takes these as its tools.
-/

set_option autoImplicit false

namespace HttpConsole.Exchange

structure Policy where
  followRedirects : Bool
  acceptAnyCertificate : Bool
  /-- Whether HTTP/1.1 is the only protocol offered, as a host of its own choice needs it. -/
  http1Only : Bool
deriving DecidableEq, Repr

structure Outgoing where
  method : String
  url : Url
  headers : Http.HeaderMap
  policy : Policy
deriving DecidableEq, Repr

structure Tools where
  toAscii : Url.ToAscii
  /-- Whether a header map made for so many headers takes headers of these names, one behind the
  other. One that does not crashes. -/
  holdsHeaders : Nat → List String → Bool
  /-- Sets up what sends requests by a policy; there is an error if this does not work. -/
  setUp : Policy → Option LibraryError

/-- The most headers that a header map can be made for: three quarters of the 2^15 places that it
has at most. -/
def maxHeaders : Nat := 24576

structure Tools.Lawful (tools : Tools) : Prop where
  toAscii : tools.toAscii.Lawful
  bounded : ∀ count names, tools.holdsHeaders count names = true → count ≤ maxHeaders

/-- A URL text with `https://` in front unless it names http or https. -/
def normalizeUrl (url : String) : String :=
  if "http://".toList.isPrefixOf url.toList || "https://".toList.isPrefixOf url.toList then url
  else "https://" ++ url

def readUrl (toAscii : Url.ToAscii) (text : String) : Except Halt Url :=
  match Url.parse toAscii (normalizeUrl text) with
  | .ok url => .ok url
  | .error fault => .error (.failure (.invalidUrl (normalizeUrl text) fault))

/-- Adds headers to a map that was made for `count` of them and took the names `taken` so far. -/
def readHeaders (tools : Tools) (count : Nat) (taken : List String) (headers : Http.HeaderMap) :
    List (String × String) → Except Halt Http.HeaderMap
  | [] => .ok headers
  | (name, value) :: rest =>
      if !Http.isHeaderName name then .error (.failure (.invalidHeader name .name))
      else if !Http.isHeaderValue (Text.encode value) then
        .error (.failure (.invalidHeader name .value))
      else if !tools.holdsHeaders count (taken ++ [name]) then .error .crash
      else
        readHeaders tools count (taken ++ [name]) (headers.append name (Text.encode value)) rest

def collectHeaders (tools : Tools) (entries : List (String × String)) :
    Except Halt Http.HeaderMap :=
  if !tools.holdsHeaders entries.length [] then .error .crash
  else readHeaders tools entries.length [] .empty entries

def Policy.ofRequest (request : Request) : Policy :=
  { followRedirects := request.followsRedirects
    acceptAnyCertificate := request.isInsecure
    http1Only := request.hostOverride?.isSome }

def build (tools : Tools) (request : Request) : Except Halt Outgoing :=
  if !Http.isToken request.method then .error (.failure (.invalidMethod request.method))
  else do
    let url ← readUrl tools.toAscii request.url
    let headers ← collectHeaders tools request.headers.entries
    match tools.setUp (.ofRequest request) with
    | some error => .error (.failure (.client error))
    | none =>
        return {
          method := request.method
          url := url
          headers := headers
          policy := .ofRequest request }

def Outgoing.lines (outgoing : Outgoing) : List String :=
  (outgoing.method ++ " " ++ outgoing.url.render) :: outgoing.headers.lines

def prepare (tools : Tools) (text : String) : Except Halt Outgoing :=
  match Request.parse text with
  | .ok request => build tools request
  | .error error => .error (.failure (.unreadable error))

end HttpConsole.Exchange
