/-!
# HTTP tokens

The characters that methods and header names are made of.
-/

set_option autoImplicit false

namespace HttpConsole.Http

def tokenSigns : String := "!#$%&'*+-.^_`|~"

def isTokenChar (char : Char) : Bool :=
  char.isAlphanum || tokenSigns.toList.contains char

def isToken (text : String) : Bool :=
  text != "" && text.toList.all isTokenChar

end HttpConsole.Http
