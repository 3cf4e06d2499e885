/-!
# UTF-8

`encode` writes a text as bytes. `scalars` reads bytes back: each well-formed sequence gives its
character, and each longest stretch that begins a sequence without completing it, or cannot
begin one, gives a single gap. A byte sequence is well formed when it has no gap, and lossy
reading puts U+FFFD in each gap.
-/

set_option autoImplicit false

namespace HttpConsole.Text

abbrev Bytes := List UInt8

def encodeChars (text : List Char) : Bytes :=
  text.flatMap String.utf8EncodeChar

def encode (text : String) : Bytes :=
  encodeChars text.toList

/-- A sequence that has begun: the code read so far, how many bytes are missing, and the range
that the next one has to lie in. -/
structure OpenSequence where
  code : Nat
  missing : Nat
  low : UInt8 := 0x80
  high : UInt8 := 0xBF

/-- What a byte means where a new sequence may begin. -/
inductive Lead where
  | char (char : Char)
  | opens (sequence : OpenSequence)
  | stray

/-- Reads the first byte of a sequence. The ranges for the second byte leave out overlong forms,
surrogates and codes above U+10FFFF. -/
def lead (byte : UInt8) : Lead :=
  if byte < 0x80 then .char (Char.ofNat byte.toNat)
  else if byte < 0xC2 then .stray
  else if byte < 0xE0 then .opens { code := byte.toNat - 0xC0, missing := 1 }
  else if byte = 0xE0 then .opens { code := 0, missing := 2, low := 0xA0 }
  else if byte = 0xED then .opens { code := 0x0D, missing := 2, high := 0x9F }
  else if byte < 0xF0 then .opens { code := byte.toNat - 0xE0, missing := 2 }
  else if byte = 0xF0 then .opens { code := 0, missing := 3, low := 0x90 }
  else if byte < 0xF4 then .opens { code := byte.toNat - 0xF0, missing := 3 }
  else if byte = 0xF4 then .opens { code := 4, missing := 3, high := 0x8F }
  else .stray

def OpenSequence.accepts (sequence : OpenSequence) (byte : UInt8) : Bool :=
  sequence.low ≤ byte && byte ≤ sequence.high

/-- An open sequence with one more byte; any continuation byte may follow it. -/
def OpenSequence.push (sequence : OpenSequence) (byte : UInt8) : OpenSequence :=
  { code := sequence.code * 64 + (byte.toNat - 0x80), missing := sequence.missing - 1 }

/-- Reads bytes behind an open sequence, or where none is open; `none` stands for a gap. -/
def scalarsFrom : Option OpenSequence → Bytes → List (Option Char)
  | none, [] => []
  | some _, [] => [none]
  | none, byte :: rest =>
      match lead byte with
      | .char char => some char :: scalarsFrom none rest
      | .opens sequence => scalarsFrom (some sequence) rest
      | .stray => none :: scalarsFrom none rest
  | some sequence, byte :: rest =>
      if sequence.accepts byte then
        let longer := sequence.push byte
        if longer.missing = 0 then some (Char.ofNat longer.code) :: scalarsFrom none rest
        else scalarsFrom (some longer) rest
      else
        none ::
          match lead byte with
          | .char char => some char :: scalarsFrom none rest
          | .opens opened => scalarsFrom (some opened) rest
          | .stray => none :: scalarsFrom none rest

/-- The characters of a byte sequence, with `none` for each gap. -/
def scalars (bytes : Bytes) : List (Option Char) :=
  scalarsFrom none bytes

def isWellFormed (bytes : Bytes) : Bool :=
  (scalars bytes).all Option.isSome

def decode? (bytes : Bytes) : Option String :=
  if isWellFormed bytes then some (String.ofList ((scalars bytes).filterMap id)) else none

def replacement : Char := '\uFFFD'

/-- The text of any bytes, with U+FFFD in each gap. -/
def decodeLossy (bytes : Bytes) : String :=
  String.ofList ((scalars bytes).map fun scalar => scalar.getD replacement)

end HttpConsole.Text
