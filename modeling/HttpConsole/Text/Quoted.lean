import HttpConsole.Text.CodeRange
import HttpConsole.Text.Property.Extending
import HttpConsole.Text.Property.Unprintable

/-!
# Quoted text in messages

A text inside a message stands between double quotes. A quote, a backslash and the common control
characters have a short escape; what would not be visible on its own, or would be drawn over its
neighbour, is written by its code point.
-/

set_option autoImplicit false

namespace HttpConsole.Text

def codeEscape (char : Char) : String :=
  "\\u\x7b" ++ String.ofList (Nat.toDigits 16 char.toNat) ++ "\x7d"

def escapeChar (char : Char) : String :=
  match char with
  | '\x00' => "\\0"
  | '\t' => "\\t"
  | '\r' => "\\r"
  | '\n' => "\\n"
  | '\\' => "\\\\"
  | '\x22' => "\\\""
  | char =>
      if Property.extending.has char || Property.unprintable.has char then codeEscape char
      else char.toString

def quote (text : String) : String :=
  "\"" ++ String.join (text.toList.map escapeChar) ++ "\""

end HttpConsole.Text
