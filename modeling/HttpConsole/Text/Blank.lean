import HttpConsole.Text.CodeRange

/-!
# White space

The Unicode property White_Space, and the first word of a text by it.
-/

set_option autoImplicit false

namespace HttpConsole.Text

def Property.blanks : CodeRanges :=
  [(0x09, 0x0D), (0x20, 0x20), (0x85, 0x85), (0xA0, 0xA0), (0x1680, 0x1680), (0x2000, 0x200A),
   (0x2028, 0x2029), (0x202F, 0x202F), (0x205F, 0x205F), (0x3000, 0x3000)]

def isWhiteSpace (char : Char) : Bool :=
  Property.blanks.has char

/-- The first word of a text; empty if there is none. -/
def firstWord (text : List Char) : List Char :=
  (text.dropWhile isWhiteSpace).takeWhile (!isWhiteSpace ·)

end HttpConsole.Text
