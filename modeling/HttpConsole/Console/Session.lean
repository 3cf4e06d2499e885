import HttpConsole.Console.Key
import HttpConsole.Console.State
import HttpConsole.Storage.DraftFile

/-!
# Sessions

A session takes the user's events and the answers to requests one at a time. Each step has
effects that can be seen from outside: the screen is drawn anew, a command is sent, a text is
copied. Quitting saves the draft, sends the last command and ends the session; nothing is drawn
after it. A session that loses both its sources ends without saving.
-/

set_option autoImplicit false

namespace HttpConsole.Console

open HttpConsole.Exchange (Answer Command)
open HttpConsole.Storage (DraftFile FileTree)

inductive Input where
  | event (event : Event)
  | answer (answer : Answer)
deriving DecidableEq, Repr

/-- What can be seen of a session from outside. -/
inductive Effect where
  | draw (snapshot : Snapshot)
  | send (command : Command)
  | copy (text : String)
deriving DecidableEq, Repr

def Effect.ofCopied : Option String → List Effect
  | none => []
  | some text => [.copy text]

def withCopied (outcome : State × Option String) : State × List Effect :=
  (outcome.1, Effect.ofCopied outcome.2)

/-- What an event other than quitting does to the state, and its effects besides drawing. -/
def State.handle (state : State) (clipboard : Clipboard) (event : Event) : State × List Effect :=
  match event with
  | .enterChar char => (state.edit (·.enter char), [])
  | .newline => (state.edit (·.enter '\n'), [])
  | .deleteBackward => (state.edit Draft.deleteBackward, [])
  | .deleteForward => (state.edit Draft.deleteForward, [])
  | .left => (state.edit Draft.left, [])
  | .right => (state.edit Draft.right, [])
  | .up => (state.edit Draft.up, [])
  | .down => (state.edit Draft.down, [])
  | .home => (state.edit Draft.home, [])
  | .lineEnd => (state.edit Draft.toLineEnd, [])
  | .send => let (sent, command) := state.send; (sent, [.send command])
  | .selectPrevious => (state.look Viewport.selectPrevious, [])
  | .selectNext => (state.look Viewport.selectNext, [])
  | .copyResult => withCopied (state.copyResult clipboard)
  | .copyHeaders => withCopied (state.copyHeaders clipboard)
  | .copySelected => withCopied (state.copySelected clipboard)
  | .quit => (state, [])

/-- A session: its state, the clipboard and the files that it works with, and whether it has
ended. -/
structure Session where
  state : State
  clipboard : Clipboard := .working
  file : DraftFile
  tree : FileTree
  ended : Bool := false
deriving DecidableEq, Repr

namespace Session

/-- A session on a draft file, before its first step. -/
def ofFile (file : DraftFile) (tree : FileTree) (clipboard : Clipboard) : Session :=
  { state := .ofDraftText (file.load tree), clipboard := clipboard, file := file, tree := tree }

def greeting (session : Session) : List Effect :=
  [.draw session.state.snapshot]

def step (session : Session) (input : Input) : Session × List Effect :=
  if session.ended then (session, [])
  else
    match input with
    | .event .quit =>
        ({ session with
            tree := session.file.save session.tree session.state.draft.text
            ended := true },
          [.send .shutdown])
    | .event event =>
        let (state, effects) := session.state.handle session.clipboard event
        ({ session with state := state }, effects ++ [.draw state.snapshot])
    | .answer answer =>
        let state := session.state.receive answer
        ({ session with state := state }, [.draw state.snapshot])

/-- Takes inputs in order; the effects of all of them are listed. -/
def run (session : Session) : List Input → Session × List Effect
  | [] => (session, [])
  | input :: rest =>
      let (next, effects) := session.step input
      let (last, later) := next.run rest
      (last, effects ++ later)

def close (session : Session) : Session :=
  { session with ended := true }

end Session

end HttpConsole.Console
