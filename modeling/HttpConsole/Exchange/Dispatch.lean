import HttpConsole.Exchange.Dispatcher

/-!
# Commands one after another

How a dispatcher serves commands of which each is given when those before it have been answered,
or have sent a request whose reply never comes. All requests draw their replies from one script,
in the order in which they are sent.
-/

set_option autoImplicit false

namespace HttpConsole.Exchange

inductive Notice where
  | answered (answer : Answer)
  /-- The request is on its way and its reply never comes, or it has crashed. -/
  | pending
  | closed
  | stopped
deriving DecidableEq, Repr

/-- The notice on a command for a dispatcher, by what was seen of it. -/
def Notice.of (running : Bool) (command : Command) (occurrences : List Occurrence) : Notice :=
  if running then
    match command with
    | .shutdown => .closed
    | .hit _ _ =>
        match occurrences.findSome? Occurrence.answer? with
        | some answer => .answered answer
        | none => .pending
  else .stopped

namespace Dispatcher

/-- Gives the request of a number the replies of a script until it is answered, or meets a reply
that never comes. At the end of the script the connection is closed. The replies that are left
come last. -/
def feed (dispatcher : Dispatcher) (world : Surroundings) (number : Nat) :
    List Reply → Dispatcher × List Occurrence × List Reply
  | [] =>
      let (last, seen) := dispatcher.step world (.reply number .close)
      (last, seen, [])
  | reply :: script =>
      if (dispatcher.errand? number).isNone then (dispatcher, [], reply :: script)
      else if reply = .silence then (dispatcher, [], script)
      else
        let (next, now) := dispatcher.step world (.reply number reply)
        let (last, later, left) := next.feed world number script
        (last, now ++ later, left)

def serve (dispatcher : Dispatcher) (world : Surroundings) (command : Command)
    (script : List Reply) : Dispatcher × List Occurrence × List Reply :=
  let number := dispatcher.taken
  let (started, first) := (dispatcher.take command).step world (.start number)
  let (last, later, left) := started.feed world number script
  (last, first ++ later, left)

end Dispatcher

/-- All that is seen of a dispatcher: what became of each command, and the requests sent. -/
structure Dispatching where
  notices : List Notice
  sent : List WireRequest

def dispatch (world : Surroundings) (dispatcher : Dispatcher) :
    List Command → List Reply → Dispatching
  | [], _ => { notices := [], sent := [] }
  | command :: commands, script =>
      let (next, occurrences, left) := dispatcher.serve world command script
      let later := dispatch world next commands left
      { notices := .of dispatcher.running command occurrences :: later.notices
        sent := occurrences.filterMap Occurrence.sent? ++ later.sent }

end HttpConsole.Exchange
