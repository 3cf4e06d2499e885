import HttpConsole.Text.Utf8

/-!
# Percent encoding

A byte of a URL may be written as `%` and two hexadecimal digits. Which characters have to be
written so depends on the part of the URL; controls and everything beyond ASCII always have to.
-/

set_option autoImplicit false

namespace HttpConsole

open HttpConsole.Text (Bytes)

/-- The signs that a part of a URL may not hold as they are, besides controls and characters
beyond ASCII. -/
structure Url.EscapeSet where
  signs : List Char

namespace Url

def EscapeSet.has (set : EscapeSet) (char : Char) : Bool :=
  char.toNat < 0x20 || 0x7F ≤ char.toNat || set.signs.contains char

def EscapeSet.with (set : EscapeSet) (signs : String) : EscapeSet :=
  { signs := set.signs ++ signs.toList }

def controlSet : EscapeSet := { signs := [] }

def fragmentSet : EscapeSet := controlSet.with " \"<>`"

def querySet : EscapeSet := controlSet.with " \"#<>"

def specialQuerySet : EscapeSet := querySet.with "'"

def pathSet : EscapeSet := fragmentSet.with "#?\x7b\x7d"

def credentialSet : EscapeSet := pathSet.with "/:;=@[\\]^|"

def hexDigit (value : Nat) : Char := (Nat.digitChar value).toUpper

def escapeByte (byte : UInt8) : List Char :=
  ['%', hexDigit (byte.toNat / 16), hexDigit (byte.toNat % 16)]

def escape (set : EscapeSet) (text : List Char) : List Char :=
  text.flatMap fun char =>
    if set.has char then (String.utf8EncodeChar char).flatMap escapeByte else [char]

def hexValue? (char : Char) : Option Nat :=
  if '0' ≤ char ∧ char ≤ '9' then some (char.toNat - '0'.toNat)
  else if 'a' ≤ char ∧ char ≤ 'f' then some (char.toNat - 'a'.toNat + 10)
  else if 'A' ≤ char ∧ char ≤ 'F' then some (char.toNat - 'A'.toNat + 10)
  else none

/-- The bytes that a text stands for; a `%` without two digits behind it stands for itself. -/
def unescape : List Char → Bytes
  | '%' :: first :: second :: rest =>
      match hexValue? first, hexValue? second with
      | some high, some low => UInt8.ofNat (high * 16 + low) :: unescape rest
      | _, _ => String.utf8EncodeChar '%' ++ unescape (first :: second :: rest)
  | char :: rest => String.utf8EncodeChar char ++ unescape rest
  | [] => []

end Url

end HttpConsole
