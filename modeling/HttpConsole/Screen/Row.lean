import HttpConsole.Screen.Style
import HttpConsole.Text.Width

/-!
# Rows of cells

A row of the screen is a list of cells, each with one grapheme cluster. A line is drawn from the
left; what does not fit is left out, a cluster of no width is not drawn, and one of two cells is
followed by a blank cell.
-/

set_option autoImplicit false

namespace HttpConsole.Screen

open HttpConsole.Text (clusters clusterWidth)

structure Cell where
  symbol : String := " "
  style : Style := .plain
deriving DecidableEq, Repr

abbrev Row := List Cell

def blanks (count : Nat) (style : Style) : Row :=
  List.replicate count { style := style }

/-- The clusters of a line with their styles; a line feed is none. -/
def lineClusters (line : Line) : List (List Char × Style) :=
  line.flatMap fun span =>
    ((clusters span.text.toList).filter (· != ['\n'])).map fun cluster => (cluster, span.style)

/-- The clusters that fit into `width` cells of which `used` are taken. One that is wider than
the whole row is passed over, and the first other one that does not fit ends the line. -/
def fit (width used : Nat) : List (List Char × Style) → List (List Char × Style)
  | [] => []
  | (cluster, style) :: rest =>
      let size := clusterWidth cluster
      if width < size then fit width used rest
      else if width < used + size then []
      else (cluster, style) :: fit width (used + size) rest

def clusterCells (base : Style) (cluster : List Char) (style : Style) : Row :=
  match clusterWidth cluster with
  | 0 => []
  | size + 1 =>
      { symbol := String.ofList cluster, style := base.patch style } :: blanks size base

def lineCells (width : Nat) (base : Style) (line : Line) : Row :=
  (fit width 0 (lineClusters line)).flatMap fun (cluster, style) =>
    clusterCells base cluster style

def drawLine (width : Nat) (base : Style) (line : Line) : Row :=
  let cells := lineCells width base line
  cells ++ blanks (width - cells.length) base

def maxCoordinate : Nat := 65535

/-- The lines that `height` rows show from line `scroll` on. Lines are counted like coordinates: if
the count would pass the largest one, nothing is shown. -/
def visibleLines (height scroll : Nat) (lines : List Line) : List Line :=
  if scroll + height ≤ maxCoordinate then (lines.drop scroll).take height else []

def drawLines (width height scroll : Nat) (base : Style) (lines : List Line) : List Row :=
  let shown := (visibleLines height scroll lines).map (drawLine width base)
  shown ++ List.replicate (height - shown.length) (blanks width base)

def Row.runs (row : Row) : List (String × Style) :=
  row.foldr
    (fun cell runs =>
      match runs with
      | [] => [(cell.symbol, cell.style)]
      | (text, style) :: rest =>
          if style = cell.style then (cell.symbol ++ text, style) :: rest
          else (cell.symbol, cell.style) :: runs)
    []

end HttpConsole.Screen
