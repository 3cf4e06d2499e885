import HttpConsole.Url.Ipv4
import HttpConsole.Url.Ipv6

/-!
# Hosts of URLs

A host is a domain name, an IPv4 or an IPv6 address. Domain names are kept in ASCII and in small
letters. How an international name is brought into ASCII is not part of this library: whoever reads
a URL says how, and `ToAscii.Lawful` is what is taken for granted of it.
-/

set_option autoImplicit false

namespace HttpConsole.Url

inductive Fault where
  | emptyHost
  | invalidPort
  | invalidIpv4
  | invalidIpv6
  | invalidDomain
  | invalidHostCharacter
  | relativeWithoutBase
deriving DecidableEq, Repr

def Fault.describe : Fault → String
  | .emptyHost => "empty host"
  | .invalidPort => "invalid port number"
  | .invalidIpv4 => "invalid IPv4 address"
  | .invalidIpv6 => "invalid IPv6 address"
  | .invalidDomain => "invalid international domain name"
  | .invalidHostCharacter => "invalid domain character"
  | .relativeWithoutBase => "relative URL without a base"

inductive Host where
  | domain (name : String)
  | ipv4 (address : Nat)
  | ipv6 (pieces : List Nat)
deriving DecidableEq, Repr

def Host.render : Host → String
  | .domain name => name
  | .ipv4 address => Ipv4.render address
  | .ipv6 pieces => "[" ++ Ipv6.render pieces ++ "]"

def forbiddenHostSigns : List Char := " #/:<>?@[\\]^|".toList

def isDomainByte (byte : UInt8) : Bool :=
  0x20 < byte && byte < 0x7F && byte != 0x25 &&
    !forbiddenHostSigns.contains (Char.ofNat byte.toNat)

/-- How the bytes of a domain name are brought into ASCII; `none` if they are no name. -/
abbrev ToAscii := Text.Bytes → Option (List Char)

/-- The characters that bytes of ASCII stand for, in small letters. -/
def smallChars (bytes : Text.Bytes) : List Char :=
  bytes.map fun byte => (Char.ofNat byte.toNat).toLower

/-- Whether a label of a name is marked as one that encodes an international label. -/
def hasEncodedLabel (bytes : Text.Bytes) : Bool :=
  (Text.splitBy (· == '.') (smallChars bytes)).any ("xn--".toList.isPrefixOf ·)

structure ToAscii.Lawful (toAscii : ToAscii) : Prop where
  /-- A name in ASCII without encoded labels is kept in small letters, if it may stand there. -/
  ascii : ∀ bytes, (∀ byte ∈ bytes, byte.toNat < 0x80) → hasEncodedLabel bytes = false →
    toAscii bytes = if bytes.all isDomainByte then some (smallChars bytes) else none
  /-- Only printed characters come out. -/
  printed : ∀ bytes name, toAscii bytes = some name → ∀ char ∈ name, 0x20 < char.toNat

/-- The conversion that knows no international names and refuses them. -/
def asciiOnly : ToAscii := fun bytes =>
  if bytes.all isDomainByte && !hasEncodedLabel bytes then some (smallChars bytes) else none

def bracketed? (text : List Char) : Except Fault Host :=
  if text.getLast? = some ']' then
    match Ipv6.parse? text.dropLast with
    | some pieces => .ok (.ipv6 pieces)
    | none => .error .invalidIpv6
  else .error .invalidIpv6

def Host.parse (toAscii : ToAscii) : List Char → Except Fault Host
  | '[' :: rest => bracketed? rest
  | text =>
      match toAscii (unescape text) with
      | none => .error .invalidDomain
      | some name =>
          if name = [] then .error .emptyHost
          else if Ipv4.endsInNumber name then
            match Ipv4.parse? name with
            | some address => .ok (.ipv4 address)
            | none => .error .invalidIpv4
          else .ok (.domain (String.ofList name))

/-- Reads the host of a URL of another scheme, which is kept as it is but for controls. -/
def Host.parseOther : List Char → Except Fault Host
  | '[' :: rest => bracketed? rest
  | text =>
      if text.any (fun char => forbiddenHostSigns.contains char || char.toNat = 0) then
        .error .invalidHostCharacter
      else .ok (.domain (String.ofList (escape controlSet text)))

end HttpConsole.Url
