import HttpConsole.Console.State
import HttpConsole.Screen.Row
import HttpConsole.Text.Blank

/-!
# The result on the screen

Header lines are coloured, the highlighted one on a background of its own and the status line by
the kind of its code; the body is plain. The view stands between two borders, the lower of which
tells how long the answer took.
-/

set_option autoImplicit false

namespace HttpConsole.Screen

open HttpConsole.Console (Snapshot Viewport)

def statusColor (code : Nat) : Color :=
  if 200 ≤ code ∧ code ≤ 299 then .green
  else if 300 ≤ code ∧ code ≤ 399 then .cyan
  else if 400 ≤ code ∧ code ≤ 499 then .red
  else if 500 ≤ code ∧ code ≤ 599 then .magenta
  else .yellow

def maxCode : Nat := 65535

/-- The number that a word stands for: digits, which a plus sign may precede. -/
def codeOfWord? (word : List Char) : Option Nat :=
  let digits :=
    match word with
    | '+' :: rest => rest
    | _ => word
  if digits = [] ∨ digits.any (fun char => !char.isDigit) then none
  else
    let value := digits.foldl (fun value char => value * 10 + (char.toNat - '0'.toNat)) 0
    if value ≤ maxCode then some value else none

def headerStyle : Style := { foreground := some .lightBlue }

def selectedStyle : Style := { foreground := some .lightBlue, background := some .white }

def statusStyle (line : String) : Style :=
  match codeOfWord? (Text.firstWord line.toList) with
  | some code => { foreground := some (statusColor code), bold := true }
  | none => headerStyle

/-- Where the status line stands among header lines: behind the first blank one. -/
def statusIndex? (headers : List String) : Option Nat :=
  (headers.findIdx? (· == "")).map (· + 1)

def headerLineStyle (view : Viewport) (headers : List String) (index : Nat) (line : String) :
    Style :=
  if index = view.selected then selectedStyle
  else if some index = statusIndex? headers then statusStyle line
  else headerStyle

def resultLines (view : Viewport) : List Line :=
  match view.lines.getLast? with
  | none => []
  | some body =>
      let headers := view.lines.dropLast
      let top := headers.mapIdx fun index line =>
        [({ text := line, style := headerLineStyle view headers index line } : Span)]
      top ++ (Text.lines body).map Line.plain

def borderStyle : Style := { foreground := some .darkGray }

def drawBorder (width : Nat) : Row :=
  List.replicate width { symbol := "─", style := borderStyle }

/-- What the lower border says: that an answer is waited for, or how long the last one took. -/
def timeText (snapshot : Snapshot) : String :=
  if snapshot.isLoading then " [...] "
  else
    match snapshot.elapsed with
    | none => ""
    | some elapsed => " " ++ toString elapsed.toNat ++ "ms "

/-- The lower border, with its text at the right end; of a text that is too long the end is
shown. -/
def drawLowerBorder (width : Nat) (text : String) : Row :=
  let symbols := text.toList.drop (text.length - width)
  drawBorder (width - symbols.length) ++
    symbols.map fun char => { symbol := char.toString, style := borderStyle }

/-- The result with its borders, in `height` rows. -/
def drawResult (width height : Nat) (snapshot : Snapshot) : List Row :=
  [drawBorder width] ++
    drawLines width (height - 2) snapshot.view.scroll.toNat .plain (resultLines snapshot.view) ++
    [drawLowerBorder width (timeText snapshot)]

end HttpConsole.Screen
