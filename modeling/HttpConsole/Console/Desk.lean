import HttpConsole.Console.Session

/-!
# A session and its sources

Events and answers reach a session through two sources. Each may be filled and closed at any time;
what waits in a closed source is still taken. Which source the session takes from next is left
open. Once both are closed and empty, nothing can reach the session any more, and it ends.
-/

set_option autoImplicit false

namespace HttpConsole.Console

open HttpConsole.Exchange (Answer)

/-- What waits to be taken, oldest first, and whether more may come. -/
structure Source (Content : Type) where
  waiting : List Content := []
  isOpen : Bool := true
deriving DecidableEq, Repr

namespace Source

variable {Content : Type}

def put (source : Source Content) (content : Content) : Source Content :=
  if source.isOpen then { source with waiting := source.waiting ++ [content] } else source

def close (source : Source Content) : Source Content :=
  { source with isOpen := false }

/-- Whether nothing waits and nothing more may come. -/
def isExhausted (source : Source Content) : Bool :=
  source.waiting.isEmpty && !source.isOpen

end Source

structure Desk where
  session : Session
  events : Source Event := {}
  answers : Source Answer := {}
deriving DecidableEq, Repr

/-- What happens at a desk: around the session, or by its own doing. -/
inductive Stir where
  | putEvent (event : Event)
  | putAnswer (answer : Answer)
  | closeEvents
  | closeAnswers
  | changeClipboard (clipboard : Clipboard)
  | takeEvent
  | takeAnswer
  /-- The session ends because its sources are exhausted. -/
  | giveUp
deriving DecidableEq, Repr

namespace Desk

def take (desk : Desk) (input : Input) : Desk × List Effect :=
  let (session, effects) := desk.session.step input
  ({ desk with session := session }, effects)

/-- Lets something happen. A session that has ended takes nothing, and what cannot happen yet
changes nothing. -/
def step (desk : Desk) : Stir → Desk × List Effect
  | .putEvent event => ({ desk with events := desk.events.put event }, [])
  | .putAnswer answer => ({ desk with answers := desk.answers.put answer }, [])
  | .closeEvents => ({ desk with events := desk.events.close }, [])
  | .closeAnswers => ({ desk with answers := desk.answers.close }, [])
  | .changeClipboard clipboard =>
      ({ desk with session := { desk.session with clipboard := clipboard } }, [])
  | .takeEvent =>
      if desk.session.ended then (desk, [])
      else
        match desk.events.waiting with
        | [] => (desk, [])
        | event :: rest =>
            { desk with events := { desk.events with waiting := rest } }.take (.event event)
  | .takeAnswer =>
      if desk.session.ended then (desk, [])
      else
        match desk.answers.waiting with
        | [] => (desk, [])
        | answer :: rest =>
            { desk with answers := { desk.answers with waiting := rest } }.take (.answer answer)
  | .giveUp =>
      if desk.events.isExhausted && desk.answers.isExhausted then
        ({ desk with session := desk.session.close }, [])
      else (desk, [])

/-- Lets things happen in order; the effects of all of them are listed. -/
def run (desk : Desk) : List Stir → Desk × List Effect
  | [] => (desk, [])
  | stir :: rest =>
      let (next, effects) := desk.step stir
      let (last, later) := next.run rest
      (last, effects ++ later)

end Desk

end HttpConsole.Console
