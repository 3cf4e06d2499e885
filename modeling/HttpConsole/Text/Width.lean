import HttpConsole.Text.Cluster
import HttpConsole.Text.Property.Width

/-!
# Cells of a terminal

How many cells a text takes on a terminal: two for wide characters, none for marks and ignorable
characters, one for all others, controls included. A cluster takes the sum of its characters,
except that a line end of two characters takes one cell and an emoji sequence two.
-/

set_option autoImplicit false

namespace HttpConsole.Text

def charWidth (char : Char) : Nat :=
  if char.toNat < 0x7F then 1
  else if Property.wide.has char then 2
  else if Property.extending.has char || Property.ignorable.has char then 0
  else 1

def isEmojiSelector (char : Char) : Bool := char.toNat == 0xFE0F

def isTextSelector (char : Char) : Bool := char.toNat == 0xFE0E

def isEmojiBase (char : Char) : Bool :=
  Property.pictographs.has char || char.isDigit || char == '#' || char == '*'

/-- Whether a character makes an emoji sequence of the pictograph before it: a skin tone, or
another pictograph joined to it. -/
def isEmojiPart (char : Char) : Bool :=
  (0x1F3FB ≤ char.toNat && char.toNat ≤ 0x1F3FF) || Property.pictographs.has char

def clusterWidth : List Char → Nat
  | [] => 0
  | [char] => charWidth char
  | ['\r', '\n'] => 1
  | base :: marks =>
      if isEmojiBase base && marks.any isEmojiSelector then 2
      else if Property.pictographs.has base && marks.any isEmojiPart then 2
      else if Property.emojiPresentation.has base && marks.any isTextSelector then 1
      else marks.foldl (fun width mark => width + charWidth mark) (charWidth base)

end HttpConsole.Text
