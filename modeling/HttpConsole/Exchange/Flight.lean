import HttpConsole.Exchange.Agent
import HttpConsole.Exchange.Report
import HttpConsole.Http.Body

/-!
# Requests on their way

A request text is read, built and handed to an agent. Each final reply gives the agent a turn, and
the flight ends when the agent delivers a response or gives up. `hit` runs a request text against a
script of replies: the n-th request sent gets the n-th final reply, and a connection for which the
script has none is closed.
-/

set_option autoImplicit false

namespace HttpConsole.Exchange

/-- How a request ends: with a report, with a failure that is told, or with a crash. -/
inductive Ending where
  | report (report : Report)
  | failure (failure : Failure)
  | crash
deriving DecidableEq, Repr

def Halt.ending : Halt → Ending
  | .failure told => .failure told
  | .crash => .crash

/-- What a response delivered to a request is reported as. -/
def Response.ending (response : Response) (outgoing : Outgoing) : Ending :=
  match response.body with
  | .broken error => .failure (.body error)
  | .whole bytes =>
      .report {
        requestLines := outgoing.lines
        responseLines := Http.responseLines response.status response.headers
        body := Http.bodyText Http.bodyCheck bytes }

inductive Progress where
  | waiting (flight : Flight)
  | ended (ending : Ending)
deriving DecidableEq, Repr

/-- Gives the agent its turn; the request that is sent, if any, comes with the result. -/
def Flight.proceed (flight : Flight) (agent : Agent) : Progress × List WireRequest :=
  match agent.turn flight with
  | .send request =>
      match agent.connect flight request.url with
      | none => (.waiting flight, [request])
      | some error => (.ended (.failure (.transport error)), [])
  | .deliver response => (.ended (response.ending flight.outgoing), [])
  | .fail error => (.ended (.failure (.transport error)), [])

def Flight.receive (flight : Flight) (agent : Agent) (reply : Reply) :
    Progress × List WireRequest :=
  if reply.isFinal then (flight.hear reply).proceed agent else (.waiting flight, [])

def launch (agent : Agent) (text : String) : Progress × List WireRequest :=
  match prepare agent.toTools text with
  | .ok outgoing => (Flight.start outgoing).proceed agent
  | .error halt => (.ended halt.ending, [])

/-- What became of a request: its end, or none because its reply never came. -/
inductive Outcome where
  | ended (ending : Ending)
  | pending
deriving DecidableEq, Repr

/-- A request from its start to its end: the outcome, what was sent, and the replies that are
left. -/
structure Run where
  outcome : Outcome
  sent : List WireRequest
  left : List Reply

def Run.after (run : Run) (sent : List WireRequest) : Run :=
  { run with sent := sent ++ run.sent }

def Progress.outcome : Progress → Outcome
  | .waiting _ => .pending
  | .ended ending => .ended ending

def Progress.run (agent : Agent) : Progress → List Reply → Run
  | .ended ending, script => { outcome := .ended ending, sent := [], left := script }
  | .waiting flight, [] =>
      let (progress, sent) := flight.receive agent .close
      { outcome := progress.outcome, sent := sent, left := [] }
  | .waiting _, .silence :: script => { outcome := .pending, sent := [], left := script }
  | .waiting flight, reply :: script =>
      let (progress, sent) := flight.receive agent reply
      (progress.run agent script).after sent

def hit (agent : Agent) (text : String) (script : List Reply) : Run :=
  let (progress, sent) := launch agent text
  (progress.run agent script).after sent

end HttpConsole.Exchange
