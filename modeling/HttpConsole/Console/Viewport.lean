import HttpConsole.Text.Line

/-!
# The viewport

The lines of the last result, the line that is highlighted and how far the view is scrolled. The
last entry is the body, which is shown as many lines as it has. The highlight moves over the
header lines only, while scrolling goes on into the body.
-/

set_option autoImplicit false

namespace HttpConsole.Console

structure Viewport where
  /-- Request lines, a blank line, response lines, a blank line and the body. -/
  lines : List String := []
  selected : Nat := 0
  scroll : UInt16 := 0
deriving DecidableEq, Repr

def maxScroll : Nat := 65535

namespace Viewport

def blank : Viewport := {}

/-- How many lines are shown: the header lines, and the lines of the body. -/
def shownCount (view : Viewport) : Nat :=
  match view.lines.getLast? with
  | none => 0
  | some body => view.lines.length - 1 + (Text.lines body).length

def scrollLimit (view : Viewport) : UInt16 :=
  UInt16.ofNat (min (view.shownCount - 1) maxScroll)

def selectPrevious (view : Viewport) : Viewport :=
  { view with
    selected := view.selected - 1
    scroll := if 0 < view.scroll then view.scroll - 1 else view.scroll }

/-- Moves the highlight one line down, up to the last response header, and the view as long as a
line of the result is left. -/
def selectNext (view : Viewport) : Viewport :=
  { view with
    selected := if view.selected + 3 < view.lines.length then view.selected + 1 else view.selected
    scroll := if view.scroll < view.scrollLimit then view.scroll + 1 else view.scroll }

/-- The view of a new result. The highlight stays where it is if there is still a line, and the
view stays scrolled. -/
def display (view : Viewport) (lines : List String) : Viewport :=
  { view with
    lines := lines
    selected := if lines.length ≤ view.selected then 0 else view.selected }

def selectedLine? (view : Viewport) : Option String :=
  view.lines[view.selected]?

def allText (view : Viewport) : String :=
  Text.join view.lines

/-- The header lines as one text: all but the body and the blank line before it. -/
def headerText (view : Viewport) : String :=
  Text.join (view.lines.take (view.lines.length - 2))

end Viewport

end HttpConsole.Console
