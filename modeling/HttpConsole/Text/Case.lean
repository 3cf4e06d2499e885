import HttpConsole.Text.Property.Case

/-!
# Case of characters

Full case mapping of a single character: the result may be several characters, and no rule looks
at the neighbours. On ASCII it is the familiar mapping of letters; the tables serve the rest.
-/

set_option autoImplicit false

namespace HttpConsole.Text

def Property.CaseRun.covers (run : Property.CaseRun) (code : Nat) : Bool :=
  run.first ≤ code && code ≤ run.last && (code - run.first) % run.stride == 0

/-- The form of a character beyond ASCII in a pair of tables; characters in neither are kept. -/
def mapCase (sequences : List (Nat × List Nat)) (runs : List Property.CaseRun) (char : Char) :
    List Char :=
  match sequences.lookup char.toNat with
  | some codes => codes.map Char.ofNat
  | none =>
      match runs.find? (·.covers char.toNat) with
      | some run => [Char.ofNat (char.toNat + run.shift).toNat]
      | none => [char]

def upper (char : Char) : List Char :=
  if char.toNat < 0x80 then [char.toUpper]
  else mapCase Property.upperSequences Property.upperRuns char

def lower (char : Char) : List Char :=
  if char.toNat < 0x80 then [char.toLower]
  else mapCase Property.lowerSequences Property.lowerRuns char

def asciiLower (text : String) : String :=
  text.map Char.toLower

end HttpConsole.Text
