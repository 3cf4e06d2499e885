/-!
# Styled text

Colours and weight of text on the screen. A style leaves open what it does not name; `patch` puts
one style over another.
-/

set_option autoImplicit false

namespace HttpConsole.Screen

inductive Color where
  | red
  | green
  | yellow
  | magenta
  | cyan
  | gray
  | darkGray
  | lightRed
  | lightBlue
  | white
deriving DecidableEq, Repr

structure Style where
  foreground : Option Color := none
  background : Option Color := none
  bold : Bool := false
deriving DecidableEq, Repr

def Style.plain : Style := {}

def Style.patch (base coat : Style) : Style :=
  { foreground := coat.foreground.or base.foreground
    background := coat.background.or base.background
    bold := base.bold || coat.bold }

@[simp] theorem Style.patch_plain (base : Style) : base.patch .plain = base := by
  simp [Style.patch, Style.plain]

structure Span where
  text : String
  style : Style := .plain
deriving DecidableEq, Repr

abbrev Line := List Span

/-- A line in no particular style; an empty one has no text at all. -/
def Line.plain (text : String) : Line :=
  if text = "" then [] else [{ text := text }]

end HttpConsole.Screen
