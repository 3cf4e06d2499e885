import HttpConsole.Console.Session
import HttpConsole.Exchange.Dispatcher

/-!
# The console and the dispatcher together

Commands go from the console to the dispatcher and answers come back, both in the order in which
they were sent. Who moves next is left open: the user, the dispatcher, one of the requests on
their way, or the console that receives an answer. A circuit is about the time before the user
quits, so quitting has no effect here.
-/

set_option autoImplicit false

namespace HttpConsole.Console

open HttpConsole.Exchange (Answer Command Dispatcher Move Occurrence Reply Surroundings)

def Effect.command? : Effect → Option Command
  | .send command => some command
  | _ => none

/-- The console, the dispatcher and what is under way between them, oldest first. -/
structure Circuit where
  state : State
  dispatcher : Dispatcher := {}
  commands : List Command := []
  answers : List Answer := []
deriving DecidableEq, Repr

inductive Happening where
  | event (event : Event) (clipboard : Clipboard)
  | take
  /-- The request of a number is read, checked and sent. -/
  | start (number : Nat)
  | reply (number : Nat) (reply : Reply)
  | receive
deriving DecidableEq, Repr

namespace Circuit

/-- A circuit at the start, with the text of the saved draft. -/
def ofDraftText (text : String) : Circuit :=
  { state := .ofDraftText text }

/-- Lets the dispatcher move; its answers join those under way. -/
def move (circuit : Circuit) (world : Surroundings) (move : Move) : Circuit :=
  let (dispatcher, occurrences) := circuit.dispatcher.step world move
  { circuit with
    dispatcher := dispatcher
    answers := circuit.answers ++ occurrences.filterMap Occurrence.answer? }

def step (circuit : Circuit) (world : Surroundings) : Happening → Circuit
  | .event event clipboard =>
      let (state, effects) := circuit.state.handle clipboard event
      { circuit with
        state := state
        commands := circuit.commands ++ effects.filterMap Effect.command? }
  | .take =>
      match circuit.commands with
      | [] => circuit
      | command :: rest => ({ circuit with commands := rest }).move world (.take command)
  | .start number => circuit.move world (.start number)
  | .reply number reply => circuit.move world (.reply number reply)
  | .receive =>
      match circuit.answers with
      | [] => circuit
      | answer :: rest =>
          { circuit with state := circuit.state.receive answer, answers := rest }

def run (circuit : Circuit) (world : Surroundings) (happenings : List Happening) : Circuit :=
  happenings.foldl (fun circuit happening => circuit.step world happening) circuit

end Circuit

end HttpConsole.Console
