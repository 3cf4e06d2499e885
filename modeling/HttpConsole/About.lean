/-!
# About the program

The names under which the program and its files are known.
-/

set_option autoImplicit false

namespace HttpConsole

def programName : String := "Hitman HTTP Client"

def programVersion : String := "0.1.0"

def programTitle : String := programName ++ " v" ++ programVersion

def defaultDraft : String := "GET www.example.com"

/-- The file in the home directory that holds the last request text. -/
def draftFileName : String := ".hitman"

def logFileName : String := "hitman.log"

end HttpConsole
