import HttpConsole.Text.Utf8

/-!
# Order of texts

Texts are listed in the order of their UTF-8 bytes.
-/

set_option autoImplicit false

namespace HttpConsole.Text

def precedes (left right : String) : Bool :=
  decide (encode left ≤ encode right)

def sortByBytes (texts : List String) : List String :=
  texts.mergeSort precedes

end HttpConsole.Text
