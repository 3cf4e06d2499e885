import HttpConsole.Proofs.Screen.DraftCursor
import HttpConsole.Screen.Layout

/-! How many rows of the screen the draft gets. The product that its share is taken of has 16 bits.
As long as it fits, the draft gets what is due to it and the panel grows with the screen. Where it
does not fit the program fails, or the product starts again from zero, and so does the share. -/

set_option autoImplicit false

namespace HttpConsole.Screen

/-- The rows that are due to the draft: 15 hundredths of those of the screen, three at least. -/
def dueHeight (rows : Nat) : Nat :=
  max 3 (15 * rows / 100)

/-- How many times the product for so many rows has started again. -/
def rounds (rows : Nat) : Nat :=
  15 * rows / (maxCoordinate + 1)

/-! ## Rounds of the product -/

theorem rounds_eq_zero_iff (rows : Nat) : rounds rows = 0 ↔ 15 * rows ≤ maxCoordinate := by
  simp only [rounds, maxCoordinate]
  omega

theorem rounds_mono {low high : Nat} (ordered : low ≤ high) : rounds low ≤ rounds high :=
  Nat.div_le_div_right (Nat.mul_le_mul_left 15 ordered)

theorem rounds_lt_iff (rows count : Nat) :
    rounds rows < count ↔ 15 * rows < count * (maxCoordinate + 1) :=
  Nat.div_lt_iff_lt_mul (Nat.succ_pos maxCoordinate)

theorem exists_new_round {low high : Nat} (grown : rounds low < rounds high) :
    ∃ rows, low ≤ rows ∧ rows < high ∧ rounds rows < rounds (rows + 1) := by
  let start := rounds high * (maxCoordinate + 1)
  have before : 15 * low < start := (rounds_lt_iff low (rounds high)).mp grown
  have reached : start ≤ 15 * high := Nat.div_mul_le_self (15 * high) (maxCoordinate + 1)
  -- the last row that is there before the last round starts
  let last := (start - 1) / 15
  have early : rounds last < rounds high := (rounds_lt_iff last (rounds high)).mpr (by omega)
  have late : ¬ rounds (last + 1) < rounds high :=
    mt (rounds_lt_iff (last + 1) (rounds high)).mp (by omega)
  exact ⟨last, by omega, by omega, Nat.lt_of_lt_of_le early (Nat.le_of_not_lt late)⟩

/-! ## The height of the panel -/

/-- The height of the panel by what is left of the product in 16 bits. -/
def wrappedHeight (height : UInt16) : UInt16 :=
  max (height * 15 / 100) 3

theorem multiply?_eq_none_iff {overflow : Overflow} {left right : UInt16} :
    multiply? overflow left right = none ↔
      overflow = .fails ∧ maxCoordinate < left.toNat * right.toNat := by
  rw [← Nat.not_le]
  unfold multiply?
  split
  · next fits => simp [fits]
  · next passed => cases overflow <;> simp [passed]

theorem multiply?_eq_some {overflow : Overflow} {left right product : UInt16}
    (multiplied : multiply? overflow left right = some product) : product = left * right := by
  unfold multiply? at multiplied
  split at multiplied
  · exact (Option.some.inj multiplied).symm
  · cases overflow <;> cases multiplied
    rfl

theorem draftHeight?_eq_none_iff {overflow : Overflow} {height : UInt16} :
    draftHeight? overflow height = none ↔
      overflow = .fails ∧ maxCoordinate < 15 * height.toNat := by
  have fifteen : (15 : UInt16).toNat = 15 := rfl
  rw [draftHeight?, Option.map_eq_none_iff, multiply?_eq_none_iff, fifteen, Nat.mul_comm]

theorem draftHeight?_eq_some {overflow : Overflow} {height panel : UInt16}
    (drawn : draftHeight? overflow height = some panel) : panel = wrappedHeight height := by
  obtain ⟨product, multiplied, rfl⟩ := Option.map_eq_some_iff.mp drawn
  rw [multiply?_eq_some multiplied, wrappedHeight]

/-- A program that is not to fail, or need not, gives the panel this height. -/
theorem draftHeight?_of_drawn {overflow : Overflow} {height : UInt16}
    (drawn : ¬ (overflow = .fails ∧ maxCoordinate < 15 * height.toNat)) :
    draftHeight? overflow height = some (wrappedHeight height) := by
  obtain ⟨panel, some⟩ := Option.ne_none_iff_exists'.mp (mt draftHeight?_eq_none_iff.mp drawn)
  rw [some, draftHeight?_eq_some some]

theorem draftHeight?_wraps (height : UInt16) :
    draftHeight? .wraps height = some (wrappedHeight height) :=
  draftHeight?_of_drawn fun failing => nomatch failing.1

theorem draftHeight?_of_fits (overflow : Overflow) {height : UInt16}
    (fits : 15 * height.toNat ≤ maxCoordinate) :
    draftHeight? overflow height = some (wrappedHeight height) :=
  draftHeight?_of_drawn fun failing => Nat.not_lt.mpr fits failing.2

theorem draw?_eq_none_iff {overflow : Overflow} {width height : UInt16}
    {snapshot : Console.Snapshot} : draw? overflow width height snapshot = none ↔
      draftHeight? overflow height = none := by
  unfold draw?
  cases draftHeight? overflow height <;> simp

theorem toNat_wrappedHeight (height : UInt16) : (wrappedHeight height).toNat =
    max 3 (15 * height.toNat % (maxCoordinate + 1) / 100) := by
  rw [wrappedHeight, toNat_max, UInt16.toNat_div, UInt16.toNat_mul, Nat.max_comm, Nat.mul_comm]
  rfl

theorem three_le_toNat_wrappedHeight (height : UInt16) : 3 ≤ (wrappedHeight height).toNat := by
  rw [toNat_wrappedHeight]
  exact Nat.le_max_left _ _

theorem toNat_wrappedHeight_of_fits {height : UInt16} (fits : 15 * height.toNat ≤ maxCoordinate) :
    (wrappedHeight height).toNat = dueHeight height.toNat := by
  rw [toNat_wrappedHeight, Nat.mod_eq_of_lt (Nat.lt_succ_of_le fits), dueHeight]

theorem toNat_wrappedHeight_lt {height : UInt16} (passed : maxCoordinate < 15 * height.toNat) :
    (wrappedHeight height).toNat < dueHeight height.toNat := by
  have lost : 15 * height.toNat % (maxCoordinate + 1) + (maxCoordinate + 1) ≤ 15 * height.toNat := by
    rw [Nat.mod_eq_sub_mod passed]
    exact Nat.add_le_of_le_sub passed (Nat.mod_le _ _)
  rw [toNat_wrappedHeight, dueHeight]
  unfold maxCoordinate at lost ⊢
  omega

theorem wrappedHeight_le_of_same_round {low high : UInt16} (ordered : low ≤ high)
    (same : rounds low.toNat = rounds high.toNat) : wrappedHeight low ≤ wrappedHeight high := by
  have rows := UInt16.le_iff_toNat_le.mp ordered
  have rest : 15 * low.toNat % (maxCoordinate + 1) ≤ 15 * high.toNat % (maxCoordinate + 1) := by
    simp only [rounds, maxCoordinate] at same ⊢
    omega
  apply UInt16.le_iff_toNat_le.mpr
  rw [toNat_wrappedHeight, toNat_wrappedHeight]
  omega

/-- With the row that begins a new round the panel falls back to the least height. -/
theorem wrappedHeight_of_new_round {height next : UInt16} (following : next.toNat = height.toNat + 1)
    (new : rounds height.toNat < rounds next.toNat) :
    (wrappedHeight height).toNat = 655 ∧ (wrappedHeight next).toNat = 3 := by
  rw [toNat_wrappedHeight, toNat_wrappedHeight]
  simp only [rounds, maxCoordinate] at new ⊢
  omega

/-! ## Screens of different heights -/

/-- Of the screens from one height to another that are drawn, whatever their widths, no higher one
has a lower panel. -/
def PanelNeverShrinks (overflow : Overflow) (low high : UInt16) : Prop :=
  ∀ width width' height height' panel panel' : UInt16,
    low ≤ height → height ≤ height' → height' ≤ high →
    draftHeight? overflow height = some panel → draftHeight? overflow height' = some panel' →
      (draftArea width height panel).height ≤ (draftArea width' height' panel').height

theorem panelNeverShrinks_of_same_round (overflow : Overflow) {low high : UInt16}
    (same : rounds low.toNat = rounds high.toNat) : PanelNeverShrinks overflow low high := by
  intro _ _ height height' panel panel' above ordered below drawn drawn'
  have first := rounds_mono (UInt16.le_iff_toNat_le.mp above)
  have second := rounds_mono (UInt16.le_iff_toNat_le.mp ordered)
  have third := rounds_mono (UInt16.le_iff_toNat_le.mp below)
  rw [draftHeight?_eq_some drawn, draftHeight?_eq_some drawn']
  exact wrappedHeight_le_of_same_round ordered (by omega)

/-- If the program fails where the product does not fit, all screens that are drawn are of the first
round. -/
theorem panelNeverShrinks_fails (low high : UInt16) : PanelNeverShrinks .fails low high := by
  intro width width' height height' panel panel' _ ordered _ drawn drawn'
  have fits : rounds height'.toNat = 0 := by
    rw [rounds_eq_zero_iff]
    exact Nat.le_of_not_lt fun passed => by
      cases drawn'.symm.trans (draftHeight?_eq_none_iff.mpr ⟨rfl, passed⟩)
  have turns := rounds_mono (UInt16.le_iff_toNat_le.mp ordered)
  have same : rounds height.toNat = rounds height'.toNat := by omega
  exact panelNeverShrinks_of_same_round .fails same width width' height height' panel panel'
    (UInt16.le_refl _) ordered (UInt16.le_refl _) drawn drawn'

theorem not_panelNeverShrinks_of_new_round {low high : UInt16}
    (grown : rounds low.toNat < rounds high.toNat) : ¬ PanelNeverShrinks .wraps low high := by
  obtain ⟨rows, above, below, new⟩ := exists_new_round grown
  have here : (UInt16.ofNat rows).toNat = rows :=
    UInt16.toNat_ofNat_of_lt' (Nat.lt_trans below high.toNat_lt)
  have there : (UInt16.ofNat (rows + 1)).toNat = rows + 1 :=
    UInt16.toNat_ofNat_of_lt' (Nat.lt_of_le_of_lt below high.toNat_lt)
  have following : (UInt16.ofNat (rows + 1)).toNat = (UInt16.ofNat rows).toNat + 1 := by omega
  obtain ⟨full, least⟩ := wrappedHeight_of_new_round following (by rwa [here, there])
  intro never
  have kept : wrappedHeight (.ofNat rows) ≤ wrappedHeight (.ofNat (rows + 1)) := by
    refine never 0 0 _ _ _ _ ?_ ?_ ?_ (draftHeight?_wraps _) (draftHeight?_wraps _) <;>
      apply UInt16.le_iff_toNat_le.mpr <;> omega
  have keptRows := UInt16.le_iff_toNat_le.mp kept
  omega

/-- The draft gets just what is due to it on every screen whose product fits in 16 bits. On any other
one the program fails, if it is built to do so, and else the draft gets three rows at least and less
than is due to it. From one height of the screen to another the panel never shrinks on the screens
that are drawn, if the program is built to fail, and else exactly if the product begins no new round
between them; it begins none as long as it fits. -/
theorem draft_height_due_and_never_shrinks_iff {low high : UInt16} (ordered : low ≤ high) :
    (∀ (overflow : Overflow) (height : UInt16), 15 * height.toNat ≤ maxCoordinate →
      ∃ panel, draftHeight? overflow height = some panel ∧ panel.toNat = dueHeight height.toNat) ∧
    (∀ (width height : UInt16) (snapshot : Console.Snapshot), maxCoordinate < 15 * height.toNat →
      draw? .fails width height snapshot = none ∧
      ∃ panel, draftHeight? .wraps height = some panel ∧
        3 ≤ panel.toNat ∧ panel.toNat < dueHeight height.toNat) ∧
    PanelNeverShrinks .fails low high ∧
    (PanelNeverShrinks .wraps low high ↔ rounds low.toNat = rounds high.toNat) ∧
    (15 * high.toNat ≤ maxCoordinate → PanelNeverShrinks .wraps low high) := by
  have turns := rounds_mono (UInt16.le_iff_toNat_le.mp ordered)
  have never_iff : PanelNeverShrinks .wraps low high ↔ rounds low.toNat = rounds high.toNat := by
    constructor
    · intro never
      apply Nat.le_antisymm turns
      apply Nat.le_of_not_lt
      intro grown
      exact not_panelNeverShrinks_of_new_round grown never
    · exact panelNeverShrinks_of_same_round .wraps
  refine ⟨?_, ?_, panelNeverShrinks_fails low high, never_iff, ?_⟩
  · intro overflow height fits
    exact ⟨_, draftHeight?_of_fits overflow fits, toNat_wrappedHeight_of_fits fits⟩
  · intro width height snapshot passed
    refine ⟨draw?_eq_none_iff.mpr (draftHeight?_eq_none_iff.mpr ⟨rfl, passed⟩), ?_⟩
    exact ⟨_, draftHeight?_wraps height, three_le_toNat_wrappedHeight height,
      toNat_wrappedHeight_lt passed⟩
  · intro fits
    have first := (rounds_eq_zero_iff high.toNat).mpr fits
    exact never_iff.mpr (by omega)

theorem draft_height_never_shrinks_up_to_last_fit :
    (24 : UInt16) ≤ 4369 ∧ (24 : UInt16) ≤ 4370 ∧
      draftHeight? .fails 4369 = some 655 ∧ dueHeight 4369 = 655 ∧
      PanelNeverShrinks .wraps 24 4369 ∧ ¬ PanelNeverShrinks .wraps 24 4370 ∧
      draw? .fails 80 4370 { draft := .ofText "" } = none := by
  have near : (24 : UInt16) ≤ 4369 := by decide
  have far : (24 : UInt16) ≤ 4370 := by decide
  obtain ⟨due, -, -, -, never_of_fits⟩ := draft_height_due_and_never_shrinks_iff near
  obtain ⟨-, passed, -, never_iff, -⟩ := draft_height_due_and_never_shrinks_iff far
  obtain ⟨panel, drawn, rows⟩ := due .fails 4369 (by decide)
  have full : panel = 655 := UInt16.toNat_inj.mp rows
  obtain ⟨fails, -⟩ := passed 80 4370 { draft := .ofText "" } (by decide)
  exact ⟨near, far, full ▸ drawn, rfl, never_of_fits (by decide), mt never_iff.mp (by decide), fails⟩

/-- With one row more than 4369 a program that fails draws nothing, and another one gives the draft
three rows in place of 655. -/
theorem draft_panel_falls_on_higher_screen :
    draw? .fails 10 4370 {} = none ∧
      draftHeight? .wraps 4369 = some 655 ∧ draftHeight? .wraps 4370 = some 3 ∧
      dueHeight 4370 = 655 ∧ ¬ PanelNeverShrinks .wraps 0 65535 := by
  refine ⟨draw?_eq_none_iff.mpr (by decide), by decide, by decide, by decide, ?_⟩
  intro never
  have kept := never 10 10 4369 4370 655 3 (by decide) (by decide) (by decide) (by decide)
    (by decide)
  exact absurd kept (by decide)

end HttpConsole.Screen
