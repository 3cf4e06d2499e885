import HttpConsole.Console.State
import HttpConsole.Screen.Row
import HttpConsole.Text.Line
import HttpConsole.Text.Offset

/-!
# The draft on the screen

The panel shows the lines of the draft beside a border, scrolled so far that the row of the
cursor is the last one at most. Screen coordinates are numbers of 16 bits, and sums of them stop
at the largest one.
-/

set_option autoImplicit false

namespace HttpConsole.Screen

open HttpConsole.Console (Draft)

/-- A number as a coordinate; what is too large is the largest one. -/
def coordinate (value : Nat) : UInt16 :=
  UInt16.ofNat (min value maxCoordinate)

def addCoordinates (left right : UInt16) : UInt16 :=
  coordinate (left.toNat + right.toNat)

/-- The difference of two coordinates; what is below zero is zero. -/
def subCoordinates (left right : UInt16) : UInt16 :=
  coordinate (left.toNat - right.toNat)

structure Area where
  x : UInt16
  y : UInt16
  width : UInt16
  height : UInt16
deriving DecidableEq, Repr

/-- The row and the column of a byte offset in a text, both counted from zero and the column in
characters. -/
def rowColumn (text : String) (offset : Nat) : Nat × Nat :=
  let before := Text.takeBytes offset text.toList
  (before.count '\n', (before.reverse.takeWhile (· != '\n')).length)

def panelMargin : Nat := 2

/-- The screen column of a column of the draft, which stays inside the panel. -/
def cursorX (area : Area) (column : Nat) : UInt16 :=
  let last := addCoordinates area.x (subCoordinates area.width 1)
  let shifted := addCoordinates area.x (UInt16.ofNat panelMargin)
  min (addCoordinates shifted (coordinate column)) last

def panelScroll (height : UInt16) (row : Nat) : UInt16 :=
  coordinate (row - (max height.toNat 1 - 1))

/-- The screen row of a row of the draft, which stays inside the panel. -/
def cursorY (area : Area) (row : Nat) : UInt16 :=
  let offset := coordinate (row - (panelScroll area.height row).toNat)
  addCoordinates area.y (min offset (subCoordinates area.height 1))

def cursorPosition (area : Area) (draft : Draft) : UInt16 × UInt16 :=
  let (row, column) := rowColumn draft.text draft.cursor
  (cursorX area column, cursorY area row)

def panelBorder : Cell :=
  { symbol := "┃", style := { foreground := some .green } }

/-- A row of the panel: the border, a blank, and what is written. -/
def panelRow (width : Nat) (content : Row) : Row :=
  (panelBorder :: blanks 1 .plain ++ content).take width

def drawDraft (area : Area) (draft : Draft) : List Row :=
  let (row, _) := rowColumn draft.text draft.cursor
  let width := area.width.toNat
  let scroll := (panelScroll area.height row).toNat
  let lines := (Text.lines draft.text).map Line.plain
  (drawLines (width - panelMargin) area.height.toNat scroll .plain lines).map (panelRow width)

end HttpConsole.Screen
