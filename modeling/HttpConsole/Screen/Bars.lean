import HttpConsole.Console.State
import HttpConsole.Screen.Row

/-!
# Title, error and help

The three bars of one row each.
-/

set_option autoImplicit false

namespace HttpConsole.Screen

open HttpConsole.Console (Snapshot)

/-- The style of the title bar, which turns red while an error is shown. -/
def titleStyle (snapshot : Snapshot) : Style :=
  { foreground := some .white
    background := some (if snapshot.error.isSome then .lightRed else .green) }

def titleText (snapshot : Snapshot) : String :=
  snapshot.title ++ if snapshot.isLoading then " [...]" else ""

def drawBar (width : Nat) (style : Style) (text : String) : Row :=
  drawLine width style (Line.plain ((Text.lines text).headD ""))

def drawTitle (width : Nat) (snapshot : Snapshot) : Row :=
  drawBar width (titleStyle snapshot) (titleText snapshot)

def errorStyle : Style := { foreground := some .lightRed }

/-- The error bar, which is blank if there is no error. -/
def drawError (width : Nat) (snapshot : Snapshot) : Row :=
  match snapshot.error with
  | none => blanks width .plain
  | some message => drawBar width errorStyle message

/-- The keys that the help bar names, and what they do. -/
def helpEntries : List (String × String) :=
  [("Ctrl+C", "quit"), ("Tab", "send request"), ("Ctrl+↑", "scroll result ↑"),
   ("Ctrl+↓", "scroll result ↓"), ("Alt+A", "copy response"), ("Alt+S", "copy headers"),
   ("Alt+D", "copy selected header")]

def keyStyle : Style := { foreground := some .gray }

/-- The style of what keys do, and of the signs between entries. -/
def actionStyle : Style := { foreground := some .darkGray }

def helpEntry (entry : String × String) : Line :=
  [{ text := entry.1, style := keyStyle }, { text := " " ++ entry.2, style := actionStyle }]

def helpLine : Line :=
  [({ text := " • ", style := actionStyle } : Span)].intercalate (helpEntries.map helpEntry)

def drawHelp (width : Nat) : Row :=
  drawLine width .plain helpLine

end HttpConsole.Screen
