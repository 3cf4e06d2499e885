import HttpConsole.About
import HttpConsole.Console.Clipboard
import HttpConsole.Console.Draft
import HttpConsole.Console.Viewport
import HttpConsole.Exchange.Dispatcher

/-!
# The state of the console

All that the console remembers: the draft, the view of the last result, which request is waited
for, and the error that is shown. Only the answer to the latest request counts; every other one
is ignored.
-/

set_option autoImplicit false

namespace HttpConsole.Console

open HttpConsole.Exchange (Answer Command)

structure State where
  title : String := programTitle
  draft : Draft
  view : Viewport := .blank
  /-- The milliseconds that the last answer took. -/
  elapsed : Option UInt64 := none
  isLoading : Bool := false
  nextId : UInt64 := 1
  pendingId : Option UInt64 := none
  error : Option String := none
deriving DecidableEq, Repr

structure Snapshot where
  title : String := programTitle
  draft : Draft := { text := defaultDraft, cursor := 0 }
  view : Viewport := .blank
  elapsed : Option UInt64 := none
  isLoading : Bool := false
  error : Option String := none
deriving DecidableEq, Repr

namespace State

/-- The state at the start, with the text of the saved draft. -/
def ofDraftText (text : String) : State :=
  { draft := .ofText text }

def snapshot (state : State) : Snapshot :=
  { title := state.title
    draft := state.draft
    view := state.view
    elapsed := state.elapsed
    isLoading := state.isLoading
    error := state.error }

def edit (state : State) (change : Draft → Draft) : State :=
  { state with draft := change state.draft }

def look (state : State) (change : Viewport → Viewport) : State :=
  { state with view := change state.view }

def setError (state : State) (message : String) : State :=
  { state with error := some message }

def clearError (state : State) : State :=
  { state with error := none }

def takeId (state : State) : State × UInt64 :=
  ({ state with nextId := state.nextId + 1 }, state.nextId)

/-- Sends the draft under the next id; it takes the place of a request that is waited for. -/
def send (state : State) : State × Command :=
  let (numbered, id) := state.takeId
  ({ numbered with pendingId := some id, isLoading := true }, .hit id state.draft.text)

def apply (state : State) (answer : Answer) : State :=
  let settled := { state with pendingId := none, isLoading := false }
  match answer with
  | .completed _ report elapsed =>
      { settled with
        view := settled.view.display report.toLines
        elapsed := some elapsed
        error := none }
  | .failed _ message elapsed =>
      { settled with view := .blank, elapsed := some elapsed, error := some message }

/-- Takes an answer; one that is not waited for changes nothing. -/
def receive (state : State) (answer : Answer) : State :=
  if state.pendingId = some answer.id then state.apply answer else state

/-- Puts a text into the clipboard, which clears the error or shows why it failed. The text that
was copied comes with the state. -/
def copy (state : State) (clipboard : Clipboard) (text : String) : State × Option String :=
  match clipboard with
  | .working => (state.clearError, some text)
  | .failing fault => (state.setError fault.message, none)

def copyResult (state : State) (clipboard : Clipboard) : State × Option String :=
  if state.view.lines = [] then (state.setError "no result to copy", none)
  else state.copy clipboard state.view.allText

def copyHeaders (state : State) (clipboard : Clipboard) : State × Option String :=
  if state.view.lines = [] then (state.setError "no headers to copy", none)
  else state.copy clipboard state.view.headerText

def copySelected (state : State) (clipboard : Clipboard) : State × Option String :=
  match state.view.selectedLine? with
  | none => (state.setError "no result to copy", none)
  | some line => state.copy clipboard line

end State

end HttpConsole.Console
