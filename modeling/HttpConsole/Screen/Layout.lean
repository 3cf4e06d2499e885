import HttpConsole.Screen.Bars
import HttpConsole.Screen.DraftPanel
import HttpConsole.Screen.ResultView

/-!
# The whole screen

From top to bottom: the title, the error, the result, the draft and the help. The draft gets 15
hundredths of the rows, three at least, and the result what is left.
-/

set_option autoImplicit false

namespace HttpConsole.Screen

open HttpConsole.Console (Snapshot)

/-- What becomes of a product that is larger than the largest coordinate. The program fails there,
or goes on with what is left of the product in 16 bits, depending on how it was built. -/
inductive Overflow where
  | fails
  | wraps
deriving DecidableEq, Repr

/-- The product of two coordinates; `none` if the program fails. -/
def multiply? (overflow : Overflow) (left right : UInt16) : Option UInt16 :=
  if left.toNat * right.toNat ≤ maxCoordinate then some (left * right)
  else
    match overflow with
    | .fails => none
    | .wraps => some (left * right)

/-- How many rows the draft gets on a screen of so many rows. -/
def draftHeight? (overflow : Overflow) (height : UInt16) : Option UInt16 :=
  (multiply? overflow height 15).map fun product => max (product / 100) 3

def barRows : Nat := 3

/-- How many rows the result gets, if the draft gets `panel` of them. -/
def resultHeight (height panel : UInt16) : Nat :=
  height.toNat - barRows - panel.toNat

/-- The draft at the bottom of a screen, in `panel` rows above the help. -/
def draftArea (width height panel : UInt16) : Area :=
  { x := 0
    y := coordinate (2 + resultHeight height panel)
    width := width
    height := panel }

/-- The screen: its rows, and where the cursor stands. -/
structure Drawing where
  rows : List Row
  cursor : UInt16 × UInt16
deriving DecidableEq, Repr

/-- Draws a screen; `none` if the program fails. -/
def draw? (overflow : Overflow) (width height : UInt16) (snapshot : Snapshot) : Option Drawing := do
  let panel ← draftHeight? overflow height
  let columns := width.toNat
  let area := draftArea width height panel
  return {
    rows :=
      [drawTitle columns snapshot, drawError columns snapshot] ++
        drawResult columns (resultHeight height panel) snapshot ++
        drawDraft area snapshot.draft ++
        [drawHelp columns]
    cursor := cursorPosition area snapshot.draft }

end HttpConsole.Screen
