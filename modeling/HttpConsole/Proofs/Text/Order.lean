import HttpConsole.Proofs.Text.Utf8
import HttpConsole.Text.Order

/-! Texts in the order of their bytes. Different texts have different bytes, so that a list of texts
can be brought into this order in one way only. -/

set_option autoImplicit false

namespace HttpConsole.Text

theorem encode_injective : Function.Injective encode := by
  intro one other same
  have read := congrArg decode? same
  rw [decode?_encode, decode?_encode] at read
  exact Option.some.inj read

/-- A list that is in the order of the bytes of its texts. -/
def InByteOrder (texts : List String) : Prop :=
  texts.Pairwise fun left right => encode left ≤ encode right

theorem inByteOrder_sortByBytes (texts : List String) : InByteOrder (sortByBytes texts) := by
  have sorted : (sortByBytes texts).Pairwise fun left right => precedes left right = true := by
    apply List.pairwise_mergeSort
    · intro left middle right before after
      have first := of_decide_eq_true before
      have second := of_decide_eq_true after
      exact decide_eq_true (List.le_trans first second)
    · intro left right
      rw [Bool.or_eq_true]
      exact (List.le_total (encode left) (encode right)).imp decide_eq_true decide_eq_true
  exact sorted.imp of_decide_eq_true

theorem sortByBytes_perm (texts : List String) : (sortByBytes texts).Perm texts :=
  List.mergeSort_perm texts precedes

/-- Two lists of the same texts that are in order are equal. -/
theorem InByteOrder.eq_of_perm {texts others : List String} (sorted : InByteOrder texts)
    (also : InByteOrder others) (same : texts.Perm others) : texts = others := by
  refine same.eq_of_pairwise ?_ sorted also
  intro left right _ _ before after
  exact encode_injective (List.le_antisymm before after)

end HttpConsole.Text
