import HttpConsole.Http.HeaderName
import HttpConsole.Text.Order

/-!
# Headers on the wire

A header name may carry several values. The values of one name stand together, in the order in
which they were added, and the names in the order in which they first appeared. Names are kept in
small letters and values as bytes.
-/

set_option autoImplicit false

namespace HttpConsole.Http

open HttpConsole.Text (Bytes)

/-- Whether a byte may stand in a header value: tab and everything from the space on but DEL. -/
def isValueByte (byte : UInt8) : Bool :=
  (0x20 ≤ byte && byte != 0x7F) || byte == 0x09

def isHeaderValue (value : Bytes) : Bool :=
  value.all isValueByte

/-- Header names in small letters, each with its values. -/
structure HeaderMap where
  groups : List (String × List Bytes)
deriving DecidableEq, Repr

/-- Adds a value to the group of its name; a new name goes to the end. -/
def appendValue (name : String) (value : Bytes) :
    List (String × List Bytes) → List (String × List Bytes)
  | [] => [(name, [value])]
  | (present, values) :: rest =>
      if present = name then (present, values ++ [value]) :: rest
      else (present, values) :: appendValue name value rest

namespace HeaderMap

def empty : HeaderMap := { groups := [] }

def append (headers : HeaderMap) (name : String) (value : Bytes) : HeaderMap :=
  { groups := appendValue (Text.asciiLower name) value headers.groups }

def ofEntries (entries : List (String × Bytes)) : HeaderMap :=
  entries.foldl (fun headers (name, value) => headers.append name value) empty

def entries (headers : HeaderMap) : List (String × Bytes) :=
  headers.groups.flatMap fun (name, values) => values.map fun value => (name, value)

/-- The values of a name, which is given in small letters. -/
def values (headers : HeaderMap) (name : String) : List Bytes :=
  (headers.groups.lookup name).getD []

/-- Whether a name, given in small letters, has a value. -/
def has (headers : HeaderMap) (name : String) : Bool :=
  !(headers.values name).isEmpty

/-- Drops a name, which is given in small letters. -/
def erase (headers : HeaderMap) (name : String) : HeaderMap :=
  { groups := headers.groups.filter fun group => group.1 != name }

def eraseAll (headers : HeaderMap) (names : List String) : HeaderMap :=
  names.foldl erase headers

/-- Gives a name, in small letters, a single value. -/
def set (headers : HeaderMap) (name : String) (value : Bytes) : HeaderMap :=
  (headers.erase name).append name value

end HeaderMap

def headerLine (name : String) (value : Bytes) : String :=
  canonicalName name ++ " : " ++ Text.decodeLossy value

def HeaderMap.lines (headers : HeaderMap) : List String :=
  headers.entries.map fun (name, value) => headerLine name value

end HttpConsole.Http
