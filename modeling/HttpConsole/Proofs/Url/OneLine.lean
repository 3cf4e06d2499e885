import HttpConsole.Proofs.Text.OneLine
import HttpConsole.Proofs.Url.Reading

/-! Every URL that can be read is written on one line. What is kept of its text is escaped where it is
a control, and all else is made of digits and signs. -/

set_option autoImplicit false

namespace HttpConsole.Url

open HttpConsole.Text (IsOneLine)

private theorem hexDigit_ne_newline : ∀ value < 16, hexDigit value ≠ '\n' := by decide

private theorem newline_notMem_escapeByte (byte : UInt8) : '\n' ∉ escapeByte byte := by
  have high := hexDigit_ne_newline (byte.toNat / 16) (by have := byte.toNat_lt; omega)
  have low := hexDigit_ne_newline (byte.toNat % 16) (Nat.mod_lt _ (by decide))
  simp [escapeByte, high.symm, low.symm]

theorem newline_notMem_escape (set : EscapeSet) (text : List Char) : '\n' ∉ escape set text := by
  rw [escape, List.mem_flatMap]
  rintro ⟨char, -, present⟩
  split at present
  · obtain ⟨byte, -, digit⟩ := List.mem_flatMap.mp present
    exact newline_notMem_escapeByte byte digit
  · next plain =>
      cases List.mem_singleton.mp present
      exact plain (by simp [EscapeSet.has])

theorem isOneLine_escape (set : EscapeSet) (text : List Char) :
    IsOneLine (String.ofList (escape set text)) :=
  Text.isOneLine_ofList.mpr (newline_notMem_escape set text)

/-! ## Host -/

theorem isOneLine_render_ipv4 (address : Nat) : IsOneLine (Ipv4.render address) := by
  refine Text.isOneLine_intercalate (by decide) fun part member => ?_
  obtain ⟨unit, -, rfl⟩ := List.mem_map.mp member
  exact Text.isOneLine_toString _

private theorem isOneLine_renderPieces (pieces : List Nat) :
    IsOneLine (Ipv6.renderPieces pieces) := by
  refine Text.isOneLine_intercalate (by decide) fun part member => ?_
  obtain ⟨piece, -, rfl⟩ := List.mem_map.mp member
  exact Text.isOneLine_ofList.mpr (Text.newline_notMem_toDigits (by decide) piece)

theorem isOneLine_render_ipv6 (pieces : List Nat) : IsOneLine (Ipv6.render pieces) := by
  unfold Ipv6.render
  dsimp only
  split
  · exact isOneLine_renderPieces pieces
  · exact ((isOneLine_renderPieces _).append (by decide)).append (isOneLine_renderPieces _)

private theorem isOneLine_bracketed {text : List Char} {host : Host}
    (reads : bracketed? text = .ok host) : IsOneLine host.render := by
  unfold bracketed? at reads
  split at reads
  · split at reads
    · next pieces _ =>
        cases reads
        have start : IsOneLine "[" := by decide
        exact (start.append (isOneLine_render_ipv6 pieces)).append (by decide)
    · cases reads
  · cases reads

theorem isOneLine_render_host {toAscii : ToAscii} (lawful : toAscii.Lawful) {text : List Char}
    {host : Host} (reads : Host.parse toAscii text = .ok host) : IsOneLine host.render := by
  unfold Host.parse at reads
  split at reads
  · exact isOneLine_bracketed reads
  · split at reads
    · cases reads
    · next name found =>
        split at reads
        · cases reads
        · split at reads
          · split at reads
            · cases reads
              exact isOneLine_render_ipv4 _
            · cases reads
          · cases reads
            refine Text.isOneLine_ofList.mpr fun present => ?_
            exact absurd (lawful.printed _ name found _ present) (by decide)

theorem isOneLine_render_otherHost {text : List Char} {host : Host}
    (reads : Host.parseOther text = .ok host) : IsOneLine host.render := by
  unfold Host.parseOther at reads
  split at reads
  · exact isOneLine_bracketed reads
  · split at reads
    · cases reads
    · cases reads
      exact isOneLine_escape controlSet text

/-! ## Authority -/

theorem isOneLine_render_authority {toAscii : ToAscii} (lawful : toAscii.Lawful)
    {scheme : String} {atEnd : Bool} {text : List Char} {authority : Authority}
    (reads : readAuthority toAscii scheme atEnd text = .ok authority) :
    IsOneLine authority.render := by
  obtain ⟨credentials, found⟩ := readAuthority_eq_ok reads
  obtain ⟨username, password⟩ := Prod.mk.inj credentials
  have user : IsOneLine authority.username := username ▸ isOneLine_escape _ _
  have secret : IsOneLine authority.password := password ▸ isOneLine_escape _ _
  have host : IsOneLine authority.host.render := by
    split at found
    · exact isOneLine_render_host lawful found
    · exact isOneLine_render_otherHost found
  have place : IsOneLine "@" := by decide
  have colon : IsOneLine ":" := by decide
  have who : IsOneLine authority.renderCredentials := by
    unfold Authority.renderCredentials
    split
    · decide
    · split
      · exact user.append place
      · exact ((user.append colon).append secret).append place
  have spot : IsOneLine authority.renderHostPort := by
    unfold Authority.renderHostPort
    split
    · exact host
    · next port _ => exact (host.append colon).append (Text.isOneLine_toString port)
  exact who.append spot

/-! ## Path, query and fragment -/

theorem isOneLine_render_segments {parts : List String} (oneLine : ∀ part ∈ parts, IsOneLine part) :
    IsOneLine (Path.segments parts).render := by
  refine Text.isOneLine_join fun written member => ?_
  obtain ⟨part, present, rfl⟩ := List.mem_map.mp member
  have slash : IsOneLine "/" := by decide
  exact slash.append (oneLine part present)

theorem leaveSegment_subset (above : List String) : leaveSegment above ⊆ above := by
  unfold leaveSegment
  split
  · exact List.Subset.refl _
  · split
    · exact List.Subset.refl _
    · exact List.subset_cons_self ..

/-- A path is resolved without any new segments but empty ones. -/
theorem mem_resolveSegments {above segments : List String} {segment : String}
    (member : segment ∈ resolveSegments above segments) :
    segment = "" ∨ segment ∈ above ∨ segment ∈ segments := by
  fun_induction resolveSegments above segments with
  | case1 above => exact .inr (.inl (List.mem_reverse.mp member))
  | case2 above last double =>
      rcases List.mem_cons.mp (List.mem_reverse.mp member) with new | kept
      · exact .inl new
      · exact .inr (.inl (leaveSegment_subset above kept))
  | case3 above last double single =>
      rcases List.mem_cons.mp (List.mem_reverse.mp member) with new | kept
      · exact .inl new
      · exact .inr (.inl kept)
  | case4 above last double single =>
      rcases List.mem_cons.mp (List.mem_reverse.mp member) with own | kept
      · exact .inr (.inr (List.mem_singleton.mpr own))
      · exact .inr (.inl kept)
  | case5 above first next rest double ih =>
      rcases ih member with new | kept | later
      · exact .inl new
      · exact .inr (.inl (leaveSegment_subset above kept))
      · exact .inr (.inr (List.mem_cons_of_mem first later))
  | case6 above first next rest double single ih =>
      rcases ih member with new | kept | later
      · exact .inl new
      · exact .inr (.inl kept)
      · exact .inr (.inr (List.mem_cons_of_mem first later))
  | case7 above first next rest double single ih =>
      rcases ih member with new | kept | later
      · exact .inl new
      · rcases List.mem_cons.mp kept with own | kept
        · exact .inr (.inr (own ▸ List.mem_cons_self))
        · exact .inr (.inl kept)
      · exact .inr (.inr (List.mem_cons_of_mem first later))

theorem isOneLine_readSegments (special : Bool) (text : List Char) :
    ∀ segment ∈ readSegments special [] text, IsOneLine segment := by
  intro segment member
  rcases mem_resolveSegments member with rfl | impossible | written
  · decide
  · cases impossible
  · obtain ⟨piece, -, rfl⟩ := List.mem_map.mp written
    exact isOneLine_escape pathSet piece

theorem isOneLine_readRootedPath (special : Bool) (text : List Char) :
    IsOneLine (readRootedPath special text).render := by
  unfold readRootedPath
  split
  · refine isOneLine_render_segments fun part member => ?_
    split at member
    · rw [List.mem_singleton.mp member]
      decide
    · cases member
  · exact isOneLine_render_segments (isOneLine_readSegments special _)

theorem isOneLine_readTail (special : Bool) (text : List Char) :
    IsOneLine (renderPart "?" (readTail special text).1) ∧
      IsOneLine (renderPart "#" (readTail special text).2) := by
  have mark : IsOneLine "?" := by decide
  have hash : IsOneLine "#" := by decide
  constructor
  · simp only [readTail]
    split
    · exact mark.append (isOneLine_escape _ _)
    · decide
  · simp only [readTail]
    split
    · exact hash.append (isOneLine_escape _ _)
    · decide

/-! ## URLs -/

section

variable {toAscii : ToAscii} (lawful : toAscii.Lawful)
include lawful

theorem isOneLine_of_readBehindSlashes {scheme : String} (named : IsOneLine scheme)
    {text : List Char} {url : Url} (reads : readBehindSlashes toAscii scheme text = .ok url) :
    IsOneLine url.render := by
  obtain ⟨authority, found, rfl⟩ := readBehindSlashes_eq_ok reads
  obtain ⟨query, fragment⟩ := isOneLine_readTail (isSpecialScheme scheme)
    (cutAt endsPath (cutAt (endsAuthority (isSpecialScheme scheme)) text).2).2
  have slashes : IsOneLine "://" := by decide
  exact (((named.append slashes).append (isOneLine_render_authority lawful found)).append
    ((isOneLine_readRootedPath _ _).append query)).append fragment

theorem isOneLine_of_readScheme {scheme : String} (named : IsOneLine scheme) {text : List Char}
    {url : Url} (reads : readScheme toAscii scheme text = .ok url) : IsOneLine url.render := by
  unfold readScheme at reads
  split at reads
  · exact isOneLine_of_readBehindSlashes lawful named reads
  · unfold readOther at reads
    split at reads
    · exact isOneLine_of_readBehindSlashes lawful named reads
    · cases reads
      obtain ⟨query, fragment⟩ := isOneLine_readTail false (cutAt endsPath text).2
      refine (IsOneLine.append ?_ (IsOneLine.append ?_ query)).append fragment
      · unfold renderStart
        split
        · next impossible => cases impossible
        · exact named.append (by decide)
        · exact named.append (by decide)
      · dsimp only
        split
        · exact isOneLine_render_segments (isOneLine_readSegments false _)
        · exact isOneLine_escape _ _

omit lawful in
private theorem isOneLine_of_splitScheme {text rest : List Char} {scheme : String}
    (named : splitScheme? text = some (scheme, rest)) : IsOneLine scheme := by
  obtain ⟨name, -, small, signs, -⟩ := splitScheme?_eq_some named
  intro present
  rw [← small] at present
  obtain ⟨char, member, same⟩ := List.mem_map.mp present
  obtain rfl := (Text.toLower_eq_sign_iff rfl).mp same
  exact absurd (signs _ member) (by decide)

/-- Every URL that can be read is written on one line. -/
theorem isOneLine_of_parse {text : String} {url : Url} (reads : parse toAscii text = .ok url) :
    IsOneLine url.render := by
  unfold parse at reads
  split at reads
  · next named => exact isOneLine_of_readScheme lawful (isOneLine_of_splitScheme named) reads
  · cases reads

end

end HttpConsole.Url
