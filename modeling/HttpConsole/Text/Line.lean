/-!
# Lines of a text

A line ends at a line feed, and a carriage return right before that line feed belongs to the
line end. A text that ends with a line feed has no empty last line. `join` writes lines back
with a line feed between two of them.
-/

set_option autoImplicit false

namespace HttpConsole.Text

/-- Drops the carriage return of a line end; the line is given backwards. -/
def dropReturn : List Char → List Char
  | '\r' :: rest => rest
  | line => line

/-- Lines of a text whose first line has already begun with `current`, given backwards. -/
def linesFrom (current : List Char) : List Char → List (List Char)
  | [] => if current.isEmpty then [] else [current.reverse]
  | char :: rest =>
      if char = '\n' then (dropReturn current).reverse :: linesFrom [] rest
      else linesFrom (char :: current) rest

def lines (text : String) : List String :=
  (linesFrom [] text.toList).map String.ofList

def join : List String → String
  | [] => ""
  | [line] => line
  | line :: next :: rest => line ++ "\n" ++ join (next :: rest)

end HttpConsole.Text
