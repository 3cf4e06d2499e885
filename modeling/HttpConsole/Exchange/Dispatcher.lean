import HttpConsole.Exchange.Flight

/-!
# The dispatcher

The dispatcher takes commands: to run a request text under an id, or to stop. Requests run side by
side. Each one that is taken gets a number of its own, sends what it has to send and takes the
replies that are meant for it, and is answered once, under its id, unless it crashes: then it is
gone without an answer. Once stopped, the dispatcher takes no further command, and requests that
were still open are given up without an answer.
-/

set_option autoImplicit false

namespace HttpConsole.Exchange

inductive Command where
  | hit (id : UInt64) (text : String)
  | shutdown
deriving DecidableEq, Repr

/-- What the dispatcher answers: the result of a request or the message of its failure, and the
milliseconds that it took. -/
inductive Answer where
  | completed (id : UInt64) (report : Report) (elapsed : UInt64)
  | failed (id : UInt64) (message : String) (elapsed : UInt64)
deriving DecidableEq, Repr

def Answer.id : Answer → UInt64
  | .completed id _ _ => id
  | .failed id _ _ => id

/-- The answer to a request that has come to its end. A crash has none. -/
def Answer.ofEnding? (id elapsed : UInt64) : Ending → Option Answer
  | .report report => some (.completed id report elapsed)
  | .failure failure => some (.failed id failure.message elapsed)
  | .crash => none

/-- How far a request has got that is not answered yet. -/
inductive Stage where
  | fresh (text : String)
  | flying (flight : Flight)
deriving DecidableEq, Repr

/-- A request that has been taken and is not answered yet. -/
structure Errand where
  number : Nat
  id : UInt64
  stage : Stage
deriving DecidableEq, Repr

/-- What a dispatcher works in: the agent that the request of a number is handed to, and the
milliseconds that this request takes. No two requests share an agent. -/
structure Surroundings where
  agent : Nat → Agent
  elapsed : Nat → UInt64

/-- A dispatcher: whether it still takes commands, how many requests it has taken, and those that
it has not answered yet. -/
structure Dispatcher where
  running : Bool := true
  taken : Nat := 0
  errands : List Errand := []
deriving DecidableEq, Repr

inductive Move where
  | take (command : Command)
  /-- The request of a number is read, checked and sent. -/
  | start (number : Nat)
  | reply (number : Nat) (reply : Reply)
deriving DecidableEq, Repr

/-- How a request was closed: its number and its id, and the answer that was given, if any. -/
structure Closing where
  number : Nat
  id : UInt64
  answer? : Option Answer
deriving DecidableEq, Repr

inductive Occurrence where
  | sent (number : Nat) (request : WireRequest)
  | closed (closing : Closing)
deriving DecidableEq, Repr

def Occurrence.sent? : Occurrence → Option WireRequest
  | .sent _ request => some request
  | .closed _ => none

def Occurrence.answer? : Occurrence → Option Answer
  | .sent _ _ => none
  | .closed closing => closing.answer?

namespace Dispatcher

def errand? (dispatcher : Dispatcher) (number : Nat) : Option Errand :=
  dispatcher.errands.find? (·.number == number)

def drop (dispatcher : Dispatcher) (number : Nat) : Dispatcher :=
  { dispatcher with errands := dispatcher.errands.filter (·.number != number) }

def setStage (dispatcher : Dispatcher) (number : Nat) (stage : Stage) : Dispatcher :=
  { dispatcher with
    errands := dispatcher.errands.map fun errand =>
      if errand.number = number then { errand with stage := stage } else errand }

def take (dispatcher : Dispatcher) (command : Command) : Dispatcher :=
  if dispatcher.running then
    match command with
    | .shutdown => { dispatcher with running := false, errands := [] }
    | .hit id text =>
        { dispatcher with
          taken := dispatcher.taken + 1
          errands :=
            dispatcher.errands ++ [{ number := dispatcher.taken, id := id, stage := .fresh text }] }
  else dispatcher

/-- Takes note of how far a request has got, and closes it if it has come to its end. -/
def settle (dispatcher : Dispatcher) (world : Surroundings) (errand : Errand)
    (progress : Progress) (requests : List WireRequest) : Dispatcher × List Occurrence :=
  let sent := requests.map (Occurrence.sent errand.number)
  match progress with
  | .waiting flight => (dispatcher.setStage errand.number (.flying flight), sent)
  | .ended ending =>
      let closing : Closing := {
        number := errand.number
        id := errand.id
        answer? := Answer.ofEnding? errand.id (world.elapsed errand.number) ending }
      (dispatcher.drop errand.number, sent ++ [.closed closing])

/-- Makes a move. A move that does not fit the stage of the request changes nothing. -/
def step (dispatcher : Dispatcher) (world : Surroundings) :
    Move → Dispatcher × List Occurrence
  | .take command => (dispatcher.take command, [])
  | .start number =>
      match dispatcher.errand? number with
      | some errand =>
          match errand.stage with
          | .fresh text =>
              let (progress, requests) := launch (world.agent number) text
              dispatcher.settle world errand progress requests
          | .flying _ => (dispatcher, [])
      | none => (dispatcher, [])
  | .reply number reply =>
      match dispatcher.errand? number with
      | some errand =>
          match errand.stage with
          | .fresh _ => (dispatcher, [])
          | .flying flight =>
              let (progress, requests) := flight.receive (world.agent number) reply
              dispatcher.settle world errand progress requests
      | none => (dispatcher, [])

/-- Makes moves in order; all that is seen is listed. -/
def run (dispatcher : Dispatcher) (world : Surroundings) :
    List Move → Dispatcher × List Occurrence
  | [] => (dispatcher, [])
  | move :: rest =>
      let (next, now) := dispatcher.step world move
      let (last, later) := next.run world rest
      (last, now ++ later)

end Dispatcher

end HttpConsole.Exchange
