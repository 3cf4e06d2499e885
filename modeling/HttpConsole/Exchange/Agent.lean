import HttpConsole.Exchange.Outgoing
import HttpConsole.Http.Status

/-!
# What sends requests

A request that is ready is handed to an agent. The agent connects to hosts, sends the request,
follows redirects or does not, and delivers a response in the end or gives up. It is not part of
this library: it is any function of the request and of the replies that were heard so far, and the
structures at the end of this module name what is taken for granted of it.
-/

set_option autoImplicit false

namespace HttpConsole.Exchange

open HttpConsole.Text (Bytes)

/-- A request as it is sent. -/
structure WireRequest where
  method : String
  url : Url
  headers : Http.HeaderMap
deriving DecidableEq, Repr

def Outgoing.request (outgoing : Outgoing) : WireRequest :=
  { method := outgoing.method, url := outgoing.url, headers := outgoing.headers }

/-- The body of a response: its bytes, or the error that keeps it from being read to its end. -/
inductive Body where
  | whole (bytes : Bytes)
  | broken (error : LibraryError)
deriving DecidableEq, Repr

structure Response where
  status : Http.Status
  headers : Http.HeaderMap
  body : Body
deriving DecidableEq, Repr

/-- What comes back for a request; `close` is the end of its connection without a response, and
after `silence` nothing ever comes. -/
inductive Reply where
  | response (response : Response)
  | close
  | silence
deriving DecidableEq, Repr

/-- Whether a status only announces that the response itself is still to come. -/
def isInterimStatus (code : Nat) : Bool :=
  100 ≤ code && code < 200 && code != 101

/-- Whether a reply is what a request waits for. -/
def Reply.isFinal : Reply → Bool
  | .response given => !isInterimStatus given.status.code
  | .close => true
  | .silence => false

def isRedirectStatus (code : Nat) : Bool :=
  [301, 302, 303, 307, 308].contains code

def Reply.isRedirect : Reply → Bool
  | .response given => isRedirectStatus given.status.code
  | .close => false
  | .silence => false

/-- A request under way: what was built, and the final replies heard so far. -/
structure Flight where
  outgoing : Outgoing
  heard : List Reply
deriving DecidableEq, Repr

def Flight.start (outgoing : Outgoing) : Flight :=
  { outgoing := outgoing, heard := [] }

def Flight.hear (flight : Flight) (reply : Reply) : Flight :=
  { flight with heard := flight.heard ++ [reply] }

/-- What an agent does next with a flight. -/
inductive Turn where
  | send (request : WireRequest)
  | deliver (response : Response)
  | fail (error : LibraryError)
deriving DecidableEq, Repr

structure Agent extends Tools where
  turn : Flight → Turn
  /-- Connects a flight to the host of a URL, before a request is sent there; there is an error if
  no connection comes about. -/
  connect : Flight → Url → Option LibraryError

def isSecure (url : Url) : Bool :=
  url.scheme == "https"

/-- The most redirects that are followed. -/
def maxRedirects : Nat := 10

/-- How an agent gets from one request to the next. -/
structure Agent.Lawful (agent : Agent) : Prop where
  /-- The first request sent is the one that was built. -/
  sends_built : ∀ outgoing request,
    agent.turn (.start outgoing) = .send request → request = outgoing.request
  /-- What is delivered is the response that came last. -/
  delivers_last : ∀ flight response,
    agent.turn flight = .deliver response → flight.heard.getLast? = some (.response response)
  /-- A redirect is not followed unless this was asked for. -/
  follows_if_asked : ∀ (flight : Flight) (reply : Reply) request, reply.isRedirect = true →
    agent.turn (flight.hear reply) = .send request →
      flight.outgoing.policy.followRedirects = true
  /-- No more than ten redirects are followed. -/
  follows_ten : ∀ flight request, agent.turn flight = .send request →
    flight.heard.countP Reply.isRedirect ≤ maxRedirects
  /-- A request is not sent again: only a redirect makes another one. -/
  no_retry : ∀ (flight : Flight) (reply : Reply) request,
    agent.turn (flight.hear reply) = .send request → reply.isRedirect = true

/-- A connection to a secure host whose certificate is not trusted is refused before anything is
sent, unless any certificate is accepted. -/
def Agent.RefusesUntrusted (agent : Agent) (trusted : Url → Prop) : Prop :=
  ∀ flight url, flight.outgoing.policy.acceptAnyCertificate = false → isSecure url = true →
    ¬ trusted url → ∃ error, agent.connect flight url = some error

end HttpConsole.Exchange
