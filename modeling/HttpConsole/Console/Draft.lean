import HttpConsole.Text.Offset

/-!
# The draft

The request text that is being edited and the place of the cursor in it, a byte offset. Every
operation looks for byte offsets and cuts the text there. It fails where it would have to cut
inside a character or behind the end of the text, and a failing operation changes nothing. A cursor
past the end of the text stays where it is: nothing can be typed or deleted there.
-/

set_option autoImplicit false

namespace HttpConsole.Console

open HttpConsole.Text (byteLength cut? slice? findFirst? findLast?)

/-- A text and the byte offset of the cursor. -/
structure Draft where
  text : String
  cursor : Nat
deriving DecidableEq, Repr

def lineStart? (stop : Nat) (text : List Char) : Option Nat := do
  let front ← slice? 0 stop text
  return match findLast? '\n' front with
    | some place => place + '\n'.utf8Size
    | none => 0

def lineEnd? (start : Nat) (text : List Char) : Option Nat := do
  let behind ← slice? start (byteLength text) text
  return match findFirst? '\n' behind with
    | some place => start + place
    | none => byteLength text

/-- The byte offset `count` characters behind `start`, or `stop` if that comes first. -/
def advance? (start stop count : Nat) (text : List Char) : Option Nat := do
  let span ← slice? start stop text
  return start + byteLength (span.take count)

def remove? (place : Nat) (text : List Char) : Option (List Char) := do
  let (before, after) ← cut? place text
  match after with
  | [] => none
  | _ :: rest => return before ++ rest

namespace Draft

/-- A saved text with the cursor at the end of its first line. -/
def ofText (text : String) : Draft :=
  { text := text, cursor := (findFirst? '\n' text.toList).getD (byteLength text.toList) }

def previous? (draft : Draft) : Option Nat := do
  let before ← slice? 0 draft.cursor draft.text.toList
  return byteLength before.dropLast

def enter? (draft : Draft) (char : Char) : Option Draft :=
  if draft.cursor ≤ byteLength draft.text.toList then do
    let (before, after) ← cut? draft.cursor draft.text.toList
    return {
      text := String.ofList (before ++ char :: after)
      cursor := draft.cursor + char.utf8Size }
  else some draft

def deleteBackward? (draft : Draft) : Option Draft :=
  if 0 < draft.cursor then do
    let place ← draft.previous?
    let text ← remove? place draft.text.toList
    return { text := String.ofList text, cursor := place }
  else some draft

def deleteForward? (draft : Draft) : Option Draft :=
  if draft.cursor < byteLength draft.text.toList then do
    let text ← remove? draft.cursor draft.text.toList
    return { draft with text := String.ofList text }
  else some draft

def left? (draft : Draft) : Option Draft :=
  if 0 < draft.cursor then do
    let place ← draft.previous?
    return { draft with cursor := place }
  else some draft

def right? (draft : Draft) : Option Draft :=
  let text := draft.text.toList
  if draft.cursor < byteLength text then do
    let place ← advance? draft.cursor (byteLength text) 1 text
    return { draft with cursor := place }
  else some draft

def home? (draft : Draft) : Option Draft := do
  let start ← lineStart? draft.cursor draft.text.toList
  return { draft with cursor := start }

def toLineEnd? (draft : Draft) : Option Draft := do
  let stop ← lineEnd? draft.cursor draft.text.toList
  return { draft with cursor := stop }

/-- Moves the cursor to the same column of the line above, or to the end of that line if it is
shorter. -/
def up? (draft : Draft) : Option Draft := do
  let text := draft.text.toList
  let start ← lineStart? draft.cursor text
  if start = 0 then some draft
  else
    let line ← slice? start draft.cursor text
    let stop := start - '\n'.utf8Size
    let above ← lineStart? stop text
    let place ← advance? above stop line.length text
    return { draft with cursor := place }

/-- Moves the cursor to the same column of the line below, or to the end of that line if it is
shorter. -/
def down? (draft : Draft) : Option Draft := do
  let text := draft.text.toList
  let stop ← lineEnd? draft.cursor text
  if stop = byteLength text then some draft
  else
    let start ← lineStart? draft.cursor text
    let line ← slice? start draft.cursor text
    let below := stop + '\n'.utf8Size
    let belowEnd ← lineEnd? below text
    let place ← advance? below belowEnd line.length text
    return { draft with cursor := place }

/-- The draft after an operation, which changes nothing where it fails. -/
def attempt (draft : Draft) (operation : Draft → Option Draft) : Draft :=
  (operation draft).getD draft

def enter (draft : Draft) (char : Char) : Draft := draft.attempt (·.enter? char)

def enterText (draft : Draft) (text : String) : Draft :=
  text.toList.foldl enter draft

def deleteBackward (draft : Draft) : Draft := draft.attempt deleteBackward?

def deleteForward (draft : Draft) : Draft := draft.attempt deleteForward?

def left (draft : Draft) : Draft := draft.attempt left?

def right (draft : Draft) : Draft := draft.attempt right?

def home (draft : Draft) : Draft := draft.attempt home?

def toLineEnd (draft : Draft) : Draft := draft.attempt toLineEnd?

def up (draft : Draft) : Draft := draft.attempt up?

def down (draft : Draft) : Draft := draft.attempt down?

end Draft

end HttpConsole.Console
