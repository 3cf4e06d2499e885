import HttpConsole.Proofs.Text.Ascii
import HttpConsole.Proofs.Text.Utf8
import HttpConsole.Proofs.Url.Scheme

/-! What becomes of the text of a URL if a scheme is put in front of it although it has one. The
name of its own scheme is read as a host or as a user name then, so that the URL is another one. -/

set_option autoImplicit false

namespace HttpConsole.Url

/-- The blanks, controls and signs that a text may hold before the colon of its scheme. -/
def IsLabelChar (char : Char) : Prop :=
  char.toNat ≤ 0x20 ∨ isSchemeChar char = true

theorem IsLabelChar.ne {char : Char} (fits : IsLabelChar char) (sign : Char)
    (printed : 0x20 < sign.toNat) (outside : isSchemeChar sign = false) : char ≠ sign := by
  rintro rfl
  rcases fits with low | inside
  · exact Nat.not_lt.mpr low printed
  · rw [outside] at inside
    cases inside

private theorem toNat_lt_of_isSchemeChar {char : Char} (inside : isSchemeChar char = true) :
    char.toNat < 0x80 := by
  simp only [isSchemeChar, Bool.or_eq_true, beq_iff_eq] at inside
  rcases inside with ((inside | rfl) | rfl) | rfl
  · exact Text.isAscii_of_isAlphanum inside
  all_goals decide

/-! ## Reading behind a label -/

section Label

variable {label : List Char} (fits : ∀ char ∈ label, IsLabelChar char) (rest : List Char)
include fits

private theorem cutAt_label : cutAt (endsAuthority true) (label ++ ':' :: rest) =
    (label ++ ':' :: (cutAt (endsAuthority true) rest).1, (cutAt (endsAuthority true) rest).2) := by
  have inside : ∀ char ∈ label, (!endsAuthority true char) = true := fun char member => by
    have differs := (fits char member).ne
    simp [endsAuthority, isSlash, differs '/' (by decide) (by decide),
      differs '\\' (by decide) (by decide), differs '?' (by decide) (by decide),
      differs '#' (by decide) (by decide)]
  rw [cutAt, List.takeWhile_append_of_pos inside, List.dropWhile_append_of_pos inside]
  rfl

private theorem splitLast_label : Text.splitLast (· == '@') (label ++ ':' :: rest) =
    (Text.splitLast (· == '@') rest).map fun parts => (label ++ ':' :: parts.1, parts.2) := by
  induction label with
  | nil =>
      rw [List.nil_append, Text.splitLast]
      cases Text.splitLast (· == '@') rest <;> rfl
  | cons char others ih =>
      have differs := (fits char List.mem_cons_self).ne '@' (by decide) (by decide)
      rw [List.cons_append, Text.splitLast, ih fun other member =>
        fits other (List.mem_cons_of_mem char member)]
      cases Text.splitLast (· == '@') rest <;> simp [differs]

private theorem takeHost_label :
    takeHost false (label ++ ':' :: rest) = (label, ':' :: rest) := by
  induction label with
  | nil => rfl
  | cons char others ih =>
      have differs := (fits char List.mem_cons_self).ne
      have colon := differs ':' (by decide) (by decide)
      have later := ih fun other member => fits other (List.mem_cons_of_mem char member)
      rw [List.cons_append, takeHost, if_neg fun ends => colon ends.1,
        if_neg (differs '[' (by decide) (by decide)), if_neg (differs ']' (by decide) (by decide))]
      dsimp only
      rw [later]

private theorem readCredentials_label : readCredentials (label ++ ':' :: rest) =
    (String.ofList (escape credentialSet label), String.ofList (escape credentialSet rest)) := by
  have inside : ∀ char ∈ label, (!(char == ':')) = true := fun char member => by
    simp [(fits char member).ne ':' (by decide) (by decide)]
  rw [readCredentials, cutAt, List.takeWhile_append_of_pos inside,
    List.dropWhile_append_of_pos inside]
  simp

private theorem dropWhile_label :
    (label ++ ':' :: rest).dropWhile (isSlash true) = label ++ ':' :: rest := by
  cases label with
  | nil => rfl
  | cons char others =>
      have differs := (fits char List.mem_cons_self).ne
      exact List.dropWhile_cons_of_neg (by simp [isSlash, differs '/' (by decide) (by decide),
        differs '\\' (by decide) (by decide)])

private theorem lt_of_isLabelChar : ∀ char ∈ label, char.toNat < 0x80 := by
  intro char member
  rcases fits char member with low | inside
  · omega
  · exact toNat_lt_of_isSchemeChar inside

private theorem unescape_label : unescape label = label.map fun char => UInt8.ofNat char.toNat := by
  induction label with
  | nil => rw [unescape, List.map_nil]
  | cons char others ih =>
      have plain := (fits char List.mem_cons_self).ne '%' (by decide) (by decide)
      have small := lt_of_isLabelChar fits char List.mem_cons_self
      rw [unescape, ih fun other member => fits other (List.mem_cons_of_mem char member),
        Text.utf8EncodeChar_of_ascii small]
      · rfl
      · intro first second behind escaped
        exact fun _ => plain escaped

end Label

theorem dash_mem_of_hasEncodedLabel {bytes : Text.Bytes}
    (marked : hasEncodedLabel bytes = true) : '-' ∈ smallChars bytes := by
  obtain ⟨label, isLabel, begins⟩ := List.any_eq_true.mp marked
  have inside : '-' ∈ label :=
    (List.isPrefixOf_iff_prefix.mp begins).subset (by decide : '-' ∈ "xn--".toList)
  exact Text.mem_of_mem_splitBy isLabel inside

section Host

variable {toAscii : ToAscii} (lawful : toAscii.Lawful) {gap name : List Char}
  (blank : ∀ char ∈ gap, char.toNat ≤ 0x20)
  (named : ∀ char ∈ name, isSchemeChar char = true) {scheme : String}
  (web : scheme = "http" ∨ scheme = "https") (small : name.map Char.toLower = scheme.toList)
include blank named

private theorem isLabelChar_of_mem : ∀ char ∈ gap ++ name, IsLabelChar char := fun char member =>
  (List.mem_append.mp member).imp (blank char) (named char)

private theorem toNat_byte_of_mem :
    ∀ char ∈ gap ++ name, (UInt8.ofNat char.toNat).toNat = char.toNat := fun char member =>
  UInt8.toNat_ofNat_of_lt' (Nat.lt_trans
    (lt_of_isLabelChar (isLabelChar_of_mem blank named) char member) (by decide))

private theorem smallChars_label :
    smallChars (unescape (gap ++ name)) = (gap ++ name).map Char.toLower := by
  rw [unescape_label (isLabelChar_of_mem blank named), smallChars, List.map_map]
  refine List.map_congr_left fun char member => ?_
  rw [Function.comp_apply, toNat_byte_of_mem blank named char member, Char.ofNat_toNat]

include web small

private theorem hasEncodedLabel_label : hasEncodedLabel (unescape (gap ++ name)) = false := by
  refine Bool.eq_false_iff.mpr fun marked => ?_
  have dash := dash_mem_of_hasEncodedLabel marked
  rw [smallChars_label blank named, List.map_append, List.mem_append, small] at dash
  rcases dash with inGap | inScheme
  · obtain ⟨char, member, same⟩ := List.mem_map.mp inGap
    obtain rfl := (Text.toLower_eq_sign_iff rfl).mp same
    exact absurd (blank _ member) (by decide)
  · rcases web with rfl | rfl <;> exact absurd inScheme (by decide)

include lawful

private theorem domain_of_label {domain : List Char}
    (reads : toAscii (unescape (gap ++ name)) = some domain) : domain = scheme.toList := by
  have fits := isLabelChar_of_mem blank named
  have ascii : ∀ byte ∈ unescape (gap ++ name), byte.toNat < 0x80 := by
    rw [unescape_label fits]
    intro byte member
    obtain ⟨char, inside, rfl⟩ := List.mem_map.mp member
    rw [toNat_byte_of_mem blank named char inside]
    exact lt_of_isLabelChar fits char inside
  rw [lawful.ascii _ ascii (hasEncodedLabel_label blank named web small)] at reads
  split at reads
  · next allowed =>
      have empty : gap = [] := by
        refine List.eq_nil_iff_forall_not_mem.mpr fun char member => ?_
        have inside := List.mem_append_left name member
        rw [unescape_label fits, List.all_map] at allowed
        have printed := List.all_eq_true.mp allowed char inside
        simp only [Function.comp_apply, isDomainByte, Bool.and_eq_true, decide_eq_true_eq,
          UInt8.lt_iff_toNat_lt, UInt8.reduceToNat, toNat_byte_of_mem blank named char inside]
          at printed
        exact Nat.not_lt.mpr (blank char member) printed.1.1.1
      cases reads
      rw [smallChars_label blank named, empty, List.nil_append, small]
  · cases reads

/-- The name of a scheme is read as the name of a host, if no blank is in front of it. -/
theorem render_of_parse_label {host : Host} (reads : Host.parse toAscii (gap ++ name) = .ok host) :
    host.render = scheme := by
  unfold Host.parse at reads
  split at reads
  · next rest begins =>
      have bracket := isLabelChar_of_mem blank named '[' (begins ▸ List.mem_cons_self)
      exact absurd rfl (bracket.ne '[' (by decide) (by decide))
  · split at reads
    · cases reads
    · next domain found =>
        obtain rfl := domain_of_label lawful blank named web small found
        have filled : scheme.toList ≠ [] := by
          rcases web with rfl | rfl <;> decide
        have word : Ipv4.endsInNumber scheme.toList = false := by
          rcases web with rfl | rfl <;> decide +kernel
        rw [if_neg filled, if_neg (Bool.eq_false_iff.mp word)] at reads
        cases reads
        exact String.ofList_toList

end Host

/-! ## Reading a text that has a scheme -/

/-- What is read of the authority in a text of the web, behind all slashes in front of it. -/
theorem authority_of_readScheme {toAscii : ToAscii} {scheme : String}
    (special : isSpecialScheme scheme = true) {rest : List Char} {url : Url}
    (reads : readScheme toAscii scheme rest = .ok url) :
    ∃ authority atEnd, url.authority = some authority ∧ readAuthority toAscii scheme atEnd
      (cutAt (endsAuthority true) (rest.dropWhile (isSlash true))).1 = .ok authority := by
  rw [readScheme, if_pos special] at reads
  obtain ⟨authority, found, rfl⟩ := readBehindSlashes_eq_ok reads
  rw [special] at found
  exact ⟨authority, _, rfl, found⟩

private theorem escape_ne_nil (set : EscapeSet) {text : List Char} (filled : text ≠ []) :
    escape set text ≠ [] := by
  obtain ⟨char, others, rfl⟩ := List.exists_cons_of_ne_nil filled
  rw [escape, List.flatMap_cons]
  split
  · have size := char.utf8Size_pos
    rw [← String.length_utf8EncodeChar] at size
    obtain ⟨byte, bytes, encoded⟩ := List.exists_cons_of_length_pos size
    rw [encoded]
    exact List.cons_ne_nil _ _
  · exact List.cons_ne_nil _ _

/-- Credentials become others if a name and a colon are put in front of them: the password gets
longer, or there is a user name for the first time. -/
private theorem readCredentials_label_ne {label : List Char}
    (fits : ∀ char ∈ label, IsLabelChar char) (filled : label ≠ []) (rest : List Char) :
    readCredentials (label ++ ':' :: rest) ≠ readCredentials rest := by
  intro same
  rw [readCredentials_label fits, readCredentials, cutAt] at same
  obtain ⟨username, password⟩ := Prod.mk.inj same
  have parts := List.takeWhile_append_dropWhile (p := fun char => !(char == ':')) (l := rest)
  -- What is in front of the own password of the credentials has to be empty, as both are equal.
  generalize rest.takeWhile _ = front at username parts
  generalize rest.dropWhile _ = behind at password parts
  have longer : escape credentialSet rest =
      escape credentialSet (front ++ behind.take 1) ++ escape credentialSet (behind.drop 1) := by
    rw [escape, escape, escape, ← List.flatMap_append, List.append_assoc, List.take_append_drop,
      parts]
  rw [longer] at password
  have none : front ++ behind.take 1 = [] := by
    by_contra filled
    exact escape_ne_nil credentialSet filled (by simpa using String.ofList_injective password)
  obtain rfl : front = [] := (List.append_eq_nil_iff.mp none).1
  exact escape_ne_nil credentialSet filled (String.ofList_injective username)

/-- There is an `@` in front of all slashes only if the text does not begin with a slash. -/
private theorem dropWhile_of_splitLast {text : List Char} {parts : List Char × List Char}
    (found : Text.splitLast (· == '@') (cutAt (endsAuthority true) text).1 = some parts) :
    text.dropWhile (isSlash true) = text := by
  cases text with
  | nil => rfl
  | cons first others =>
      refine List.dropWhile_cons_of_neg fun slash => ?_
      have ends : endsAuthority true first = true := by simp [endsAuthority, slash]
      rw [cutAt, List.takeWhile_cons_of_neg (by simp [ends])] at found
      cases found

/-- An authority is not that of the same text behind a label, unless the label is read as a host. -/
private theorem render_or_ne_of_label {toAscii : ToAscii} (lawful : toAscii.Lawful)
    {scheme : String} {gap name rest : List Char}
    (web : scheme = "http" ∨ scheme = "https") (blank : ∀ char ∈ gap, char.toNat ≤ 0x20)
    (named : ∀ char ∈ name, isSchemeChar char = true)
    (small : name.map Char.toLower = scheme.toList) {atEnd atEnd' : Bool} {own other : Authority}
    (reads : readAuthority toAscii scheme atEnd
      (cutAt (endsAuthority true) (rest.dropWhile (isSlash true))).1 = .ok own)
    (completes : readAuthority toAscii "https" atEnd'
      (cutAt (endsAuthority true) (gap ++ name ++ ':' :: rest)).1 = .ok other) :
    other.host.render = scheme ∨ other ≠ own := by
  have fits := isLabelChar_of_mem blank named
  rw [cutAt_label fits] at completes
  obtain ⟨credentials', host⟩ := readAuthority_eq_ok completes
  rw [authorityParts, splitLast_label fits] at credentials' host
  -- The label ends at the first colon. So it is the host, unless an `@` makes it a user name.
  cases found : Text.splitLast (· == '@') (cutAt (endsAuthority true) rest).1 with
  | none =>
      have secure : isSpecialScheme "https" = true := rfl
      simp only [found, Option.map_none, Option.getD_none, takeHost_label fits,
        if_pos secure] at host
      exact .inl (render_of_parse_label lawful blank named web small host)
  | some parts =>
      rw [dropWhile_of_splitLast found] at reads
      obtain ⟨credentials, -⟩ := readAuthority_eq_ok reads
      rw [authorityParts, found] at credentials
      rw [found] at credentials'
      have filled : gap ++ name ≠ [] := by
        intro none
        obtain rfl := (List.append_eq_nil_iff.mp none).2
        rcases web with rfl | rfl <;> cases small
      refine .inr ?_
      rintro rfl
      exact readCredentials_label_ne fits filled parts.1 (credentials'.symm.trans credentials)

/-- A text of the web is that of another URL with a scheme put in front of it: the name of its own
scheme is the host then, or the credentials are others. -/
theorem hostText_or_authority_of_completed {toAscii : ToAscii} (lawful : toAscii.Lawful)
    {text : String} {url completed : Url} (web : url.scheme = "http" ∨ url.scheme = "https")
    (reads : parse toAscii text = .ok url)
    (completes : parse toAscii ("https://" ++ text) = .ok completed) :
    completed.hostText = url.scheme ∨ completed.authority ≠ url.authority := by
  unfold parse at reads
  split at reads
  · next scheme rest named =>
      obtain rfl := scheme_readScheme reads
      have special : isSpecialScheme url.scheme = true := by
        rcases web with web | web <;> rw [web] <;> rfl
      obtain ⟨name, whole, small, signs, -⟩ := splitScheme?_eq_some named
      have filled : clean text.toList ≠ [] := by
        rw [whole]
        exact List.append_ne_nil_of_right_ne_nil name (List.cons_ne_nil _ _)
      -- Cleaning keeps what is behind the new scheme, so the own one is where an authority begins.
      obtain ⟨gap, blank, cleaned⟩ := clean_append_filled _ text.toList bare_secure (by decide) filled
      rw [parse, String.toList_append, cleaned, whole, ← List.append_assoc gap] at completes
      have secure : readScheme toAscii "https" ('/' :: '/' :: (gap ++ name ++ ':' :: rest)) =
          .ok completed := completes
      obtain ⟨own, atEnd, has, ownReads⟩ := authority_of_readScheme special reads
      obtain ⟨other, atEnd', has', otherReads⟩ := authority_of_readScheme rfl secure
      have slashes : ('/' :: '/' :: (gap ++ name ++ ':' :: rest)).dropWhile (isSlash true) =
          gap ++ name ++ ':' :: rest :=
        dropWhile_label (isLabelChar_of_mem blank signs) rest
      rw [slashes] at otherReads
      rw [hostText, has, has', ne_eq, Option.some.injEq]
      exact render_or_ne_of_label lawful web blank signs small ownReads otherReads
  · cases reads

end HttpConsole.Url
