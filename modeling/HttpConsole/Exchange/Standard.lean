import HttpConsole.Exchange.Redirect

/-!
# An agent

Tools and an agent of the kind that is taken for granted elsewhere. The tools know no international
names and can set up any policy. The agent sends what it is given, follows redirects as far as it
may, and delivers the first response that sends it nowhere. How it connects is left open.
-/

set_option autoImplicit false

namespace HttpConsole.Exchange

def Tools.standard : Tools :=
  { toAscii := Url.asciiOnly
    holdsHeaders := fun count _ => count ≤ maxHeaders
    setUp := fun _ => none }

namespace LibraryError

def unsendable (url : Url) : LibraryError :=
  { text := "builder error for url (" ++ url.render ++ ")"
    causes := ["Parsed Url is not a valid Uri"] }

def closed (url : Url) : LibraryError :=
  { text := "error sending request for url (" ++ url.render ++ ")"
    causes := ["client error (SendRequest)", "connection closed before message completed"] }

def tooManyRedirects (url : Url) : LibraryError :=
  { text := "error following redirect for url (" ++ url.render ++ ")"
    causes := ["too many redirects"] }

def forbiddenScheme (url : Url) : LibraryError :=
  { text := "builder error for url (" ++ url.render ++ ")"
    causes := ["URL scheme is not allowed"] }

/-- There is no connection, for a cause. -/
def unconnected (url : Url) (causes : List String) : LibraryError :=
  { text := "error sending request for url (" ++ url.render ++ ")"
    causes := "client error (Connect)" :: causes
    isConnect := true }

def untrusted (url : Url) : LibraryError :=
  unconnected url ["invalid peer certificate: UnknownIssuer"]

end LibraryError

namespace Agent

/-- The turn after the replies to a request that came behind so many redirects. -/
def turnBehind (origin : Outgoing) (current : WireRequest) (redirects : Nat) : List Reply → Turn
  | [] => .send current
  | .response response :: rest =>
      match
        if origin.policy.followRedirects && isRedirectStatus response.status.code then
          response.location? Url.asciiOnly current.url
        else none
      with
      | some target =>
          if maxRedirects ≤ redirects then .fail (.tooManyRedirects current.url)
          else if !isAllowedScheme target.scheme then .fail (.forbiddenScheme target)
          else
            turnBehind origin (current.redirect response.status.code target) (redirects + 1) rest
      | none => if rest = [] then .deliver response else .fail (.closed origin.url)
  | _ :: _ => .fail (.closed origin.url)

def standard (connect : Flight → Url → Option LibraryError) : Agent :=
  { Tools.standard with
    turn := fun flight =>
      if isSendable flight.outgoing.url then
        turnBehind flight.outgoing flight.outgoing.request 0 flight.heard
      else .fail (.unsendable flight.outgoing.url)
    connect := connect }

/-- The standard agent where every host is reached and no certificate is trusted. -/
def amongUntrusted : Agent :=
  standard fun flight url =>
    if isSecure url && !flight.outgoing.policy.acceptAnyCertificate then
      some (.untrusted flight.outgoing.url)
    else none

end Agent

end HttpConsole.Exchange
