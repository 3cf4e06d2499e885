import HttpConsole.Text.Split
import HttpConsole.Url.Percent

/-!
# IPv4 addresses in URLs

A host whose last part is a number is an IPv4 address. It has up to four parts, each decimal,
octal (with a leading zero) or hexadecimal (with a leading `0x`); the last one fills all bytes
that the others leave.
-/

set_option autoImplicit false

namespace HttpConsole.Url.Ipv4

def ofDigits? (base : Nat) : List Char → Option Nat :=
  List.foldl
    (fun value char => do
      let value ← value
      let digit ← hexValue? char
      if digit < base then some (value * base + digit) else none)
    (some 0)

def part? : List Char → Option Nat
  | [] => none
  | '0' :: 'x' :: digits => ofDigits? 16 digits
  | '0' :: 'X' :: digits => ofDigits? 16 digits
  | '0' :: first :: digits => ofDigits? 8 (first :: digits)
  | digits => ofDigits? 10 digits

/-- The parts of a host, without an empty last one. -/
def parts (host : List Char) : List (List Char) :=
  let pieces := Text.splitBy (· == '.') host
  if pieces.getLast? = some [] then pieces.dropLast else pieces

def endsInNumber (host : List Char) : Bool :=
  match (parts host).getLast? with
  | none => false
  | some last => (last != [] && last.all Char.isDigit) || (part? last).isSome

/-- The address of numbers of which the last one fills the bytes that are left. -/
def ofParts? (numbers : List Nat) : Option Nat :=
  match numbers.getLast? with
  | none => none
  | some last =>
      let leading := numbers.dropLast
      let room := Nat.pow 256 (4 - leading.length)
      if numbers.length ≤ 4 ∧ leading.all (· ≤ 255) ∧ last < room then
        some (leading.foldl (fun value byte => value * 256 + byte) 0 * room + last)
      else none

def parse? (host : List Char) : Option Nat := do
  ofParts? (← (parts host).mapM part?)

def render (address : Nat) : String :=
  ".".intercalate ([16777216, 65536, 256, 1].map fun unit => toString (address / unit % 256))

end HttpConsole.Url.Ipv4
