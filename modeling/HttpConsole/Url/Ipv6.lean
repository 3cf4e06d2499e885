import HttpConsole.Text.Split
import HttpConsole.Url.Percent

/-!
# IPv6 addresses in URLs

An address is eight pieces of up to four hexadecimal digits, with colons between them. One run of
zero pieces may be left out as `::`, and the last two pieces may be written as an IPv4 address.
-/

set_option autoImplicit false

namespace HttpConsole.Url.Ipv6

def piece? (digits : List Char) : Option Nat := do
  if digits.length = 0 ∨ 4 < digits.length then none
  else
    let values ← digits.mapM hexValue?
    return values.foldl (fun value digit => value * 16 + digit) 0

/-- The value of one of four decimal numbers: up to 255, without leading zeros. -/
def byte? (digits : List Char) : Option Nat :=
  if digits = [] ∨ digits.any (fun char => !char.isDigit) then none
  else if digits.length > 1 ∧ digits.head? = some '0' then none
  else
    let value := digits.foldl (fun value char => value * 10 + (char.toNat - '0'.toNat)) 0
    if value ≤ 255 then some value else none

def dotted? (text : List Char) : Option (List Nat) := do
  match ← (Text.splitBy (· == '.') text).mapM byte? with
  | [first, second, third, fourth] => return [first * 256 + second, third * 256 + fourth]
  | _ => none

/-- The pieces of a colon-separated list whose last group may be dotted. -/
def groups? (mayEndDotted : Bool) : List (List Char) → Option (List Nat)
  | [] => some []
  | [last] =>
      if mayEndDotted && last.contains '.' then dotted? last
      else (piece? last).map fun value => [value]
  | group :: next :: rest => do
      let value ← piece? group
      let values ← groups? mayEndDotted (next :: rest)
      return value :: values

/-- The pieces of one side of `::`, which may be empty. -/
def side? (mayEndDotted : Bool) (text : List Char) : Option (List Nat) :=
  if text = [] then some [] else groups? mayEndDotted (Text.splitBy (· == ':') text)

def splitGap : List Char → Option (List Char × List Char)
  | ':' :: ':' :: rest => some ([], rest)
  | char :: rest => (splitGap rest).map fun (before, behind) => (char :: before, behind)
  | [] => none

def parse? (text : List Char) : Option (List Nat) :=
  match splitGap text with
  | some (before, behind) => do
      let left ← side? false before
      let right ← side? true behind
      if left.length + right.length ≤ 7 then
        return left ++ List.replicate (8 - left.length - right.length) 0 ++ right
      else none
  | none => do
      let pieces ← groups? true (Text.splitBy (· == ':') text)
      if pieces.length = 8 then return pieces else none

def zeroRun (pieces : List Nat) : Nat :=
  (pieces.takeWhile (· == 0)).length

/-- Where the first of the longest runs of zeros begins, and its length; `start` is the index of
the list's first piece. -/
def longestZeroRun (start : Nat) : List Nat → Nat × Nat
  | [] => (start, 0)
  | piece :: rest =>
      let here := zeroRun (piece :: rest)
      let later := longestZeroRun (start + 1) rest
      if later.2 ≤ here then (start, here) else later

def renderPieces (pieces : List Nat) : String :=
  ":".intercalate (pieces.map fun piece => String.ofList (Nat.toDigits 16 piece))

/-- An address with its first longest run of at least two zeros left out. -/
def render (pieces : List Nat) : String :=
  match longestZeroRun 0 pieces with
  | (start, length) =>
      if length < 2 then renderPieces pieces
      else
        renderPieces (pieces.take start) ++ "::" ++ renderPieces (pieces.drop (start + length))

end HttpConsole.Url.Ipv6
