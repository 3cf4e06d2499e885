import HttpConsole.Url.Parse

/-! What is read of a URL that is not refused, for the readers that can refuse one. -/

set_option autoImplicit false

namespace HttpConsole.Url

theorem splitScheme?_eq_some {text rest : List Char} {scheme : String}
    (named : splitScheme? text = some (scheme, rest)) : ∃ name, text = name ++ ':' :: rest ∧
      name.map Char.toLower = scheme.toList ∧ (∀ char ∈ name, isSchemeChar char = true) ∧
      ∃ first others, name = first :: others ∧ first.isAlpha = true := by
  unfold splitScheme? at named
  split at named
  · next first others =>
      split at named
      · next letter =>
          split at named
          · next behind found =>
              cases named
              have begins : isSchemeChar first = true := by
                simp [isSchemeChar, Char.isAlphanum, letter]
              have split := List.takeWhile_append_dropWhile (p := isSchemeChar)
                (l := first :: others)
              rw [found] at split
              refine ⟨_, split.symm, String.toList_ofList.symm, fun char member => ?_, ?_⟩
              · exact List.all_eq_true.mp List.all_takeWhile char member
              · exact ⟨first, _, List.takeWhile_cons_of_pos begins, letter⟩
          · cases named
      · cases named
  · cases named

private theorem lt_toNat_toLower_ofNat : ∀ code < 0x7F, 0x20 < code →
    0x20 < (Char.ofNat code).toLower.toNat := by
  decide +kernel

theorem asciiOnly_lawful : asciiOnly.Lawful where
  ascii := fun bytes _ unmarked => by
    rw [asciiOnly, unmarked, Bool.not_false, Bool.and_true]
  printed := fun bytes name reads char member => by
    rw [asciiOnly, Option.ite_none_right_eq_some, Bool.and_eq_true] at reads
    obtain ⟨⟨allowed, -⟩, same⟩ := reads
    cases same
    obtain ⟨byte, inside, rfl⟩ := List.mem_map.mp member
    have fits := List.all_eq_true.mp allowed byte inside
    simp only [isDomainByte, Bool.and_eq_true, decide_eq_true_eq, UInt8.lt_iff_toNat_lt,
      UInt8.reduceToNat] at fits
    exact lt_toNat_toLower_ofNat byte.toNat fits.1.1.2 fits.1.1.1

/-- The credentials of an authority and what is behind its last `@`. Without an `@` there are no
credentials. -/
def authorityParts (text : List Char) : List Char × List Char :=
  (Text.splitLast (· == '@') text).getD ([], text)

theorem readAuthority_eq_ok {toAscii : ToAscii} {scheme : String} {atEnd : Bool}
    {text : List Char} {authority : Authority}
    (reads : readAuthority toAscii scheme atEnd text = .ok authority) :
    (authority.username, authority.password) = readCredentials (authorityParts text).1 ∧
    (if isSpecialScheme scheme then Host.parse toAscii (takeHost false (authorityParts text).2).1
      else Host.parseOther (takeHost false (authorityParts text).2).1) = .ok authority.host := by
  simp only [readAuthority, bind, Except.bind, pure, Except.pure] at reads
  split at reads
  · cases reads
  · split at reads
    · cases reads
    · split at reads
      · next special =>
          split at reads
          · cases reads
          · next host found =>
              split at reads
              · cases reads
              · cases reads
                exact ⟨rfl, (if_pos special).trans found⟩
      · next special =>
          split at reads
          · cases reads
          · next host found =>
              split at reads
              · cases reads
              · cases reads
                exact ⟨rfl, (if_neg special).trans found⟩

/-- The parts of a URL with an authority. Only the authority can be refused. -/
theorem readBehindSlashes_eq_ok {toAscii : ToAscii} {scheme : String} {text : List Char}
    {url : Url} (reads : readBehindSlashes toAscii scheme text = .ok url) :
    let special := isSpecialScheme scheme
    let cut := cutAt (endsAuthority special) text
    let behind := cutAt endsPath cut.2
    ∃ authority, readAuthority toAscii scheme cut.2.isEmpty cut.1 = .ok authority ∧ url = {
      scheme := scheme
      authority := some authority
      path := readRootedPath special behind.1
      query := (readTail special behind.2).1
      fragment := (readTail special behind.2).2 } := by
  simp only [readBehindSlashes, bind, Except.bind] at reads
  split at reads
  · cases reads
  · next authority found =>
      cases reads
      exact ⟨authority, found, rfl⟩

end HttpConsole.Url
