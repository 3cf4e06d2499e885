import HttpConsole.Url.Host

/-!
# URLs

A URL in its parts, and its written form. User name, password, path, query and fragment are kept
with their escapes. The schemes of the web always have a host and a path.
-/

set_option autoImplicit false

namespace HttpConsole.Url

/-- Who and where: credentials, host and port. A port that is the scheme's own is left out. -/
structure Authority where
  username : String := ""
  password : String := ""
  host : Host
  port : Option Nat := none
deriving DecidableEq, Repr

/-- The path of a URL: segments that each follow a slash, or a text without structure. -/
inductive Path where
  | segments (parts : List String)
  | plain (text : String)
deriving DecidableEq, Repr

end HttpConsole.Url

structure HttpConsole.Url where
  scheme : String
  authority : Option HttpConsole.Url.Authority
  path : HttpConsole.Url.Path
  query : Option String := none
  fragment : Option String := none
deriving DecidableEq, Repr

namespace HttpConsole.Url

/-- The port that a scheme of the web uses if none is given. -/
def defaultPort? (scheme : String) : Option Nat :=
  match scheme with
  | "http" | "ws" => some 80
  | "https" | "wss" => some 443
  | "ftp" => some 21
  | _ => none

def isSpecialScheme (scheme : String) : Bool :=
  (defaultPort? scheme).isSome

def Authority.renderCredentials (authority : Authority) : String :=
  if authority.username = "" ∧ authority.password = "" then ""
  else if authority.password = "" then authority.username ++ "@"
  else authority.username ++ ":" ++ authority.password ++ "@"

/-- The host of an authority and its port, if it has one. -/
def Authority.renderHostPort (authority : Authority) : String :=
  match authority.port with
  | none => authority.host.render
  | some port => authority.host.render ++ ":" ++ toString port

def Authority.render (authority : Authority) : String :=
  authority.renderCredentials ++ authority.renderHostPort

def Path.render : Path → String
  | .segments parts => String.join (parts.map fun part => "/" ++ part)
  | .plain text => text

def renderPart (sign : String) : Option String → String
  | none => ""
  | some text => sign ++ text

def renderTarget (url : Url) : String :=
  url.path.render ++ renderPart "?" url.query

/-- What is written before the path: the scheme and the authority. Without an authority a first
segment that is empty would read as one, so a dot goes before it. -/
def renderStart (url : Url) : String :=
  match url.authority, url.path with
  | some authority, _ => url.scheme ++ "://" ++ authority.render
  | none, .segments ("" :: _ :: _) => url.scheme ++ ":/."
  | none, _ => url.scheme ++ ":"

def render (url : Url) : String :=
  url.renderStart ++ url.renderTarget ++ renderPart "#" url.fragment

def withoutFragment (url : Url) : Url :=
  { url with fragment := none }

def withoutCredentials (url : Url) : Url :=
  { url with authority := url.authority.map fun authority =>
      { authority with username := "", password := "" } }

/-- The host of a URL as it is written; empty if there is none. -/
def hostText (url : Url) : String :=
  match url.authority with
  | none => ""
  | some authority => authority.host.render

def effectivePort? (url : Url) : Option Nat :=
  (url.authority.bind (·.port)).or (defaultPort? url.scheme)

end HttpConsole.Url
