/-!
# The clipboard

A place that takes a text, or refuses it for one of a few reasons.
-/

set_option autoImplicit false

namespace HttpConsole.Console

/-- Why a text cannot be put into the clipboard. -/
inductive ClipboardFault where
  | contentMissing
  | notSupported
  | occupied
  | conversion
  | other (description : String)
deriving DecidableEq, Repr

def ClipboardFault.describe : ClipboardFault → String
  | .contentMissing =>
      "The clipboard contents were not available in the requested format or the clipboard " ++
        "is empty."
  | .notSupported =>
      "The selected clipboard is not supported with the current system configuration."
  | .occupied =>
      "The native clipboard is not accessible due to being held by another party."
  | .conversion =>
      "The image or the text that was about the be transferred to/from the clipboard could " ++
        "not be converted to the appropriate format."
  | .other description =>
      "Unknown error while interacting with the clipboard: " ++ description

def ClipboardFault.message (fault : ClipboardFault) : String :=
  "clipboard unavailable: " ++ fault.describe

/-- A clipboard that takes every text, or refuses every text for one reason. -/
inductive Clipboard where
  | working
  | failing (fault : ClipboardFault)
deriving DecidableEq, Repr

end HttpConsole.Console
