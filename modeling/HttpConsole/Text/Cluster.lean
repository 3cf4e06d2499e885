import HttpConsole.Text.CodeRange
import HttpConsole.Text.Property.Cluster
import HttpConsole.Text.Property.Extending

/-!
# Grapheme clusters

What a reader takes for one character may be several code points: a letter with its marks, a
syllable, a flag, an emoji built from parts. `clusters` cuts a text into these by the rules for
extended grapheme clusters of Unicode Standard Annex 29. The rule numbers GB3 to GB13 are theirs.
-/

set_option autoImplicit false

namespace HttpConsole.Text

/-- The part a character plays in the rules for cluster boundaries. -/
inductive BreakClass where
  | carriageReturn
  | lineFeed
  | control
  | extend
  | joiner
  | regional
  | prepend
  | spacing
  | leading
  | vowel
  | trailing
  | syllableOpen
  | syllableClosed
  | pictograph
  | consonant
  | linker
  | other
deriving DecidableEq

def BreakClass.of (char : Char) : BreakClass :=
  let code := char.toNat
  if code = 0x0D then .carriageReturn
  else if code = 0x0A then .lineFeed
  else if code < 0x20 then .control
  else if code < 0x7F then .other
  else if code = 0x200D then .joiner
  else if 0x1F1E6 ≤ code ∧ code ≤ 0x1F1FF then .regional
  else if 0x1F3FB ≤ code ∧ code ≤ 0x1F3FF then .extend
  else if (0x1100 ≤ code ∧ code ≤ 0x115F) ∨ (0xA960 ≤ code ∧ code ≤ 0xA97C) then .leading
  else if (0x1160 ≤ code ∧ code ≤ 0x11A7) ∨ (0xD7B0 ≤ code ∧ code ≤ 0xD7C6) then .vowel
  else if (0x11A8 ≤ code ∧ code ≤ 0x11FF) ∨ (0xD7CB ≤ code ∧ code ≤ 0xD7FB) then .trailing
  else if 0xAC00 ≤ code ∧ code ≤ 0xD7A3 then
    if (code - 0xAC00) % 28 = 0 then .syllableOpen else .syllableClosed
  else if Property.controls.has char then .control
  else if Property.conjunctLinkers.has char then .linker
  else if Property.extending.has char then .extend
  else if Property.spacingMarks.has char then .spacing
  else if Property.prepended.has char then .prepend
  else if Property.pictographs.has char then .pictograph
  else if Property.conjunctConsonants.has char then .consonant
  else .other

/-- What the end of the cluster read so far may be a part of. -/
inductive ClusterTail where
  | plain
  | flagHalf
  | picture
  /-- A pictograph, marks and a joiner. -/
  | joinedPicture
  /-- A consonant and marks on it, and whether a linker is among them. -/
  | conjunct (linked : Bool)
deriving DecidableEq

/-- The cluster read so far: the class of its last character and what its end may be part of. -/
structure ClusterState where
  last : BreakClass
  tail : ClusterTail

def ClusterState.start (next : BreakClass) : ClusterState :=
  { last := next
    tail :=
      match next with
      | .regional => .flagHalf
      | .pictograph => .picture
      | .consonant => .conjunct false
      | _ => .plain }

def ClusterState.extend (state : ClusterState) (next : BreakClass) : ClusterState :=
  { last := next
    tail :=
      match state.tail, next with
      | .flagHalf, .regional => .plain
      | .picture, .extend => .picture
      | .picture, .linker => .picture
      | .picture, .joiner => .joinedPicture
      | .conjunct _, .linker => .conjunct true
      | .conjunct linked, .extend => .conjunct linked
      | .conjunct linked, .joiner => .conjunct linked
      | _, _ => (ClusterState.start next).tail }

def ClusterState.joins (state : ClusterState) (next : BreakClass) : Bool :=
  match state.last, next with
  | .carriageReturn, .lineFeed => true                                        -- GB3
  | .carriageReturn, _ | .lineFeed, _ | .control, _ => false                  -- GB4
  | _, .carriageReturn | _, .lineFeed | _, .control => false                  -- GB5
  | .leading, .leading | .leading, .vowel => true                             -- GB6
  | .leading, .syllableOpen | .leading, .syllableClosed => true               -- GB6
  | .syllableOpen, .vowel | .syllableOpen, .trailing => true                  -- GB7
  | .vowel, .vowel | .vowel, .trailing => true                                -- GB7
  | .syllableClosed, .trailing | .trailing, .trailing => true                 -- GB8
  | _, .extend | _, .linker | _, .joiner | _, .spacing => true                -- GB9, GB9a
  | .prepend, _ => true                                                       -- GB9b
  | _, .consonant => state.tail = .conjunct true                              -- GB9c
  | _, .pictograph => state.tail = .joinedPicture                             -- GB11
  | .regional, .regional => state.tail = .flagHalf                            -- GB12, GB13
  | _, _ => false

/-- Clusters of a text behind one that has begun with `current`, given backwards. -/
def clustersFrom (state : ClusterState) (current : List Char) : List Char → List (List Char)
  | [] => [current.reverse]
  | char :: rest =>
      let next := BreakClass.of char
      if state.joins next then clustersFrom (state.extend next) (char :: current) rest
      else current.reverse :: clustersFrom (.start next) [char] rest

def clusters : List Char → List (List Char)
  | [] => []
  | char :: rest => clustersFrom (.start (.of char)) [char] rest

theorem clustersFrom_flatten (state : ClusterState) (current rest : List Char) :
    (clustersFrom state current rest).flatten = current.reverse ++ rest := by
  induction rest generalizing state current with
  | nil => simp [clustersFrom]
  | cons char rest ih =>
      simp only [clustersFrom]
      split <;> simp [ih]

theorem clusters_flatten (text : List Char) : (clusters text).flatten = text := by
  cases text with
  | nil => rfl
  | cons char rest => simp [clusters, clustersFrom_flatten]

end HttpConsole.Text
