/-!
# Keys

Which key asks for what. A key acts when it is pressed, not when it is held or let go. With
Control or Alt only a few keys have a meaning; Control goes before Alt.
-/

set_option autoImplicit false

namespace HttpConsole.Console

inductive Event where
  | enterChar (char : Char)
  | newline
  | deleteBackward
  | deleteForward
  | left
  | right
  | up
  | down
  | home
  | lineEnd
  | send
  | selectPrevious
  | selectNext
  | copyResult
  | copyHeaders
  | copySelected
  | quit
deriving DecidableEq, Repr

inductive KeyCode where
  | char (char : Char)
  | function (number : Nat)
  | backspace
  | enter
  | left
  | right
  | up
  | down
  | home
  | lineEnd
  | pageUp
  | pageDown
  | tab
  | backTab
  | delete
  | insert
  | escape
  | null
deriving DecidableEq, Repr

inductive KeyAction where
  | press
  | release
  | hold
deriving DecidableEq, Repr

/-- A key, what happens to it, and which of the keys that matter are held with it. -/
structure KeyStroke where
  code : KeyCode
  action : KeyAction := .press
  control : Bool := false
  alt : Bool := false
deriving DecidableEq, Repr

def KeyCode.withControl? : KeyCode → Option Event
  | .char 'c' => some .quit
  | .up => some .selectPrevious
  | .down => some .selectNext
  | _ => none

def KeyCode.withAlt? : KeyCode → Option Event
  | .char 'a' => some .copyResult
  | .char 's' => some .copyHeaders
  | .char 'd' => some .copySelected
  | _ => none

def KeyCode.plain? : KeyCode → Option Event
  | .escape => some .quit
  | .tab => some .send
  | .enter => some .newline
  | .backspace => some .deleteBackward
  | .delete => some .deleteForward
  | .left => some .left
  | .right => some .right
  | .up => some .up
  | .down => some .down
  | .home => some .home
  | .lineEnd => some .lineEnd
  | .char typed => some (.enterChar typed)
  | _ => none

def KeyStroke.event? (stroke : KeyStroke) : Option Event :=
  if stroke.action ≠ .press then none
  else if stroke.control then stroke.code.withControl?
  else if stroke.alt then stroke.code.withAlt?
  else stroke.code.plain?

end HttpConsole.Console
