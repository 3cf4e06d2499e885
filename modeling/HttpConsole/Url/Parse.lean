import HttpConsole.Url.Basic

/-!
# Reading URLs

URLs are read by the rules of the WHATWG standard: blanks and controls around the text and every
tab and line break in it are dropped, a URL of the web may use backslashes for slashes, and dot
segments of the path are resolved. A text without a scheme is read relative to a base.

One rule goes beyond the standard: a segment of a letter and a colon or bar, such as `C:`, is
never removed by `..`.
-/

set_option autoImplicit false

namespace HttpConsole.Url

/-- The text of a URL without blanks and controls around it and without tabs and line breaks. -/
def clean (text : List Char) : List Char :=
  let isOuter := fun char : Char => char.toNat ≤ 0x20
  let trimmed := ((text.dropWhile isOuter).reverse.dropWhile isOuter).reverse
  trimmed.filter fun char => char != '\t' && char != '\n' && char != '\r'

def isSlash (special : Bool) (char : Char) : Bool :=
  char == '/' || (special && char == '\\')

def endsAuthority (special : Bool) (char : Char) : Bool :=
  isSlash special char || char == '?' || char == '#'

def endsPath (char : Char) : Bool :=
  char == '?' || char == '#'

/-- The part of a text before the first character of a kind, and the rest with that character. -/
def cutAt (isEnd : Char → Bool) (text : List Char) : List Char × List Char :=
  (text.takeWhile (!isEnd ·), text.dropWhile (!isEnd ·))

/-! ## Scheme -/

/-- Whether a character may stand in a scheme behind its first letter. -/
def isSchemeChar (char : Char) : Bool :=
  char.isAlphanum || char == '+' || char == '-' || char == '.'

/-- The scheme that a text begins with, in small letters, and what is behind its colon. -/
def splitScheme? (text : List Char) : Option (String × List Char) :=
  match text with
  | first :: _ =>
      if first.isAlpha then
        match text.dropWhile isSchemeChar with
        | ':' :: rest =>
            some (String.ofList ((text.takeWhile isSchemeChar).map Char.toLower), rest)
        | _ => none
      else none
  | [] => none

/-! ## Authority -/

def readCredentials (text : List Char) : String × String :=
  let (username, behind) := cutAt (· == ':') text
  (String.ofList (escape credentialSet username),
    String.ofList (escape credentialSet (behind.drop 1)))

/-- The host part of an authority, which ends at the first colon outside of brackets. -/
def takeHost (inBrackets : Bool) : List Char → List Char × List Char
  | [] => ([], [])
  | char :: rest =>
      if char = ':' ∧ inBrackets = false then ([], char :: rest)
      else
        let inside := if char = '[' then true else if char = ']' then false else inBrackets
        let (host, port) := takeHost inside rest
        (char :: host, port)

def portOfDigits? (digits : List Char) : Option Nat :=
  if digits.all Char.isDigit then
    let value := digits.foldl (fun value char => value * 10 + (char.toNat - '0'.toNat)) 0
    if value ≤ 65535 then some value else none
  else none

/-- Reads what is behind the host: nothing, or a colon and a port that may be left out. -/
def readPort (scheme : String) : List Char → Except Fault (Option Nat)
  | ':' :: digits =>
      match portOfDigits? digits with
      | none => .error .invalidPort
      | some port =>
          .ok (if digits = [] ∨ some port = defaultPort? scheme then none else some port)
  | _ => .ok none

/-- Reads an authority; `atEnd` says that nothing is behind it. -/
def readAuthority (toAscii : ToAscii) (scheme : String) (atEnd : Bool) (text : List Char) :
    Except Fault Authority := do
  let special := isSpecialScheme scheme
  let (credentials, place) := (Text.splitLast (· == '@') text).getD ([], text)
  if place = [] ∧ text ≠ [] ∧ (special ∨ credentials ≠ [] ∨ !atEnd) then
    throw .emptyHost
  let (username, password) := readCredentials credentials
  let (hostText, portText) := takeHost false place
  if hostText = [] ∧ (special ∨ portText ≠ []) then throw .emptyHost
  let host ← if special then Host.parse toAscii hostText else Host.parseOther hostText
  let port ← readPort scheme portText
  return { username := username, password := password, host := host, port := port }

/-! ## Path, query and fragment -/

def isSingleDot (segment : String) : Bool :=
  segment.map Char.toLower == "." || segment.map Char.toLower == "%2e"

def isDoubleDot (segment : String) : Bool :=
  ["..", ".%2e", "%2e.", "%2e%2e"].contains (segment.map Char.toLower)

/-- Whether a segment names a drive, such as `C:`. -/
def isDriveLetter (segment : String) : Bool :=
  match segment.toList with
  | [letter, sign] => letter.isAlpha && (sign == ':' || sign == '|')
  | _ => false

/-- The segments above the current place, last one first. -/
def leaveSegment : List String → List String
  | [] => []
  | last :: above => if isDriveLetter last then last :: above else above

/-- Resolves dot segments; `above` holds the segments so far, last one first. -/
def resolveSegments (above : List String) : List String → List String
  | [] => above.reverse
  | [last] =>
      if isDoubleDot last then (("" :: leaveSegment above)).reverse
      else if isSingleDot last then ("" :: above).reverse
      else (last :: above).reverse
  | segment :: next :: rest =>
      if isDoubleDot segment then resolveSegments (leaveSegment above) (next :: rest)
      else if isSingleDot segment then resolveSegments above (next :: rest)
      else resolveSegments (segment :: above) (next :: rest)

/-- The segments that a path text adds below `above`, which holds segments last one first. -/
def readSegments (special : Bool) (above : List String) (text : List Char) : List String :=
  resolveSegments above
    ((Text.splitBy (isSlash special) text).map fun segment =>
      String.ofList (escape pathSet segment))

def readTail (special : Bool) (text : List Char) : Option String × Option String :=
  let (queryText, fragmentText) := cutAt (· == '#') text
  let set := if special then specialQuerySet else querySet
  let query :=
    match queryText with
    | '?' :: query => some (String.ofList (escape set query))
    | _ => none
  let fragment :=
    match fragmentText with
    | '#' :: fragment => some (String.ofList (escape fragmentSet fragment))
    | _ => none
  (query, fragment)

/-- The path of a URL with an authority, which begins with a slash or is left out. -/
def readRootedPath (special : Bool) (text : List Char) : Path :=
  match text with
  | [] => .segments (if special then [""] else [])
  | char :: rest =>
      .segments (readSegments special [] (if isSlash special char then rest else char :: rest))

def readBehindSlashes (toAscii : ToAscii) (scheme : String) (text : List Char) :
    Except Fault Url := do
  let special := isSpecialScheme scheme
  let (authorityText, rest) := cutAt (endsAuthority special) text
  let authority ← readAuthority toAscii scheme rest.isEmpty authorityText
  let (pathText, tailText) := cutAt endsPath rest
  let (query, fragment) := readTail special tailText
  return {
    scheme := scheme
    authority := some authority
    path := readRootedPath special pathText
    query := query
    fragment := fragment }

def readOther (toAscii : ToAscii) (scheme : String) (text : List Char) : Except Fault Url :=
  match text with
  | '/' :: '/' :: rest => readBehindSlashes toAscii scheme rest
  | _ =>
      let (pathText, tailText) := cutAt endsPath text
      let (query, fragment) := readTail false tailText
      let path :=
        match pathText with
        | '/' :: rest => Path.segments (readSegments false [] rest)
        | _ => Path.plain (String.ofList (escape controlSet pathText))
      .ok { scheme := scheme, authority := none, path := path, query := query,
            fragment := fragment }

def readScheme (toAscii : ToAscii) (scheme : String) (text : List Char) : Except Fault Url :=
  if isSpecialScheme scheme then readBehindSlashes toAscii scheme (text.dropWhile (isSlash true))
  else readOther toAscii scheme text

def parse (toAscii : ToAscii) (text : String) : Except Fault Url :=
  match splitScheme? (clean text.toList) with
  | some (scheme, rest) => readScheme toAscii scheme rest
  | none => .error .relativeWithoutBase

/-! ## Relative references -/

/-- The segments of a path; a path without structure has none. -/
def Path.toSegments : Path → List String
  | .segments parts => parts
  | .plain _ => []

/-- A URL with another path, and with the query and the fragment of a text. -/
def withPath (base : Url) (path : Path) (text : List Char) : Url :=
  let (query, fragment) := readTail true (text.dropWhile (!endsPath ·))
  { base with path := path, query := query, fragment := fragment }

def readRelative (toAscii : ToAscii) (base : Url) (text : List Char) : Except Fault Url :=
  match text with
  | [] => .ok base.withoutFragment
  | '?' :: _ =>
      let (query, fragment) := readTail true text
      .ok { base with query := query, fragment := fragment }
  | '#' :: _ => .ok { base with fragment := (readTail true text).2 }
  | first :: rest =>
      if isSlash true first then
        match rest with
        | second :: behind =>
            if first = '/' ∧ second = '/' then readBehindSlashes toAscii base.scheme behind
            else if isSlash true second then
              readBehindSlashes toAscii base.scheme (behind.dropWhile (isSlash true))
            else .ok (base.withPath (readRootedPath true (text.takeWhile (!endsPath ·))) text)
        | [] => .ok (base.withPath (readRootedPath true text) text)
      else
        let above := base.path.toSegments.dropLast.reverse
        let segments := readSegments true above (text.takeWhile (!endsPath ·))
        .ok (base.withPath (.segments segments) text)

def resolve (toAscii : ToAscii) (base : Url) (text : String) : Except Fault Url :=
  let cleaned := clean text.toList
  match splitScheme? cleaned with
  | some (scheme, rest) =>
      if scheme = base.scheme ∧ (rest.takeWhile (isSlash true)).length < 2 then
        readRelative toAscii base rest
      else readScheme toAscii scheme rest
  | none => readRelative toAscii base cleaned

end HttpConsole.Url
