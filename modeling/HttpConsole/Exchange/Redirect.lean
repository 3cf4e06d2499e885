import HttpConsole.Exchange.Agent

/-!
# Redirects

A response may send a request on to another URL. The method may change to GET, which drops the
headers that describe a body; the new request says where it comes from; and what is meant for one
host only is not told to another.
-/

set_option autoImplicit false

namespace HttpConsole.Exchange

/-- The signs that a URL may hold in its host, but a request line may not. -/
def unsendableSigns : List Char := "\"`\x7b\x7d".toList

/-- The longest URL that a request line may hold, in bytes. -/
def maxUrlLength : Nat := 65534

def isSendable (url : Url) : Bool :=
  !url.hostText.toList.any unsendableSigns.contains && url.render.utf8ByteSize ≤ maxUrlLength

def isAllowedScheme (scheme : String) : Bool :=
  scheme == "http" || scheme == "https"

/-- The URL that a response sends a request on to: that of its first location, if it is one. -/
def Response.location? (response : Response) (toAscii : Url.ToAscii) (current : Url) :
    Option Url := do
  let value ← (response.headers.values "location").head?
  let text ← Text.decode? value
  let url ← (Url.resolve toAscii current text).toOption
  if isSendable url then some url else none

def becomesGet (code : Nat) (method : String) : Bool :=
  ((code == 301 || code == 302) && method == "POST") || (code == 303 && method != "HEAD")

def payloadHeaders : List String :=
  ["content-type", "content-length", "content-encoding", "transfer-encoding"]

def privateHeaders : List String :=
  ["authorization", "cookie", "cookie2", "proxy-authorization", "www-authenticate"]

def isSamePlace (left right : Url) : Bool :=
  left.hostText == right.hostText && left.effectivePort? == right.effectivePort?

/-- The headers with the name of the previous URL in them, which is not told when the way leads
from a secure URL to a plain one. -/
def withReferer (headers : Http.HeaderMap) (previous next : Url) : Http.HeaderMap :=
  if isSecure previous && next.scheme == "http" then headers
  else
    headers.set "referer" (Text.encode previous.withoutFragment.withoutCredentials.render)

def WireRequest.redirect (request : WireRequest) (code : Nat) (target : Url) : WireRequest :=
  let changes := becomesGet code request.method
  let kept := if changes then request.headers.eraseAll payloadHeaders else request.headers
  let told := withReferer kept request.url target
  { method := if changes then "GET" else request.method
    url := target
    headers := if isSamePlace request.url target then told else told.eraseAll privateHeaders }

end HttpConsole.Exchange
