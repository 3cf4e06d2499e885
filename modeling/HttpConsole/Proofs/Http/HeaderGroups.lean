import HttpConsole.Http.HeaderMap
import HttpConsole.Proofs.Text.Utf8
import Mathlib.Data.List.Induction
import Mathlib.Data.List.Nodup

/-! Headers from the list in which they were added to the groups in which they are sent. The map
keeps all of them, those of one name together behind the first of them, and a text can be a value if
and only if it holds no control but tabs. -/

set_option autoImplicit false

namespace HttpConsole.Http

open HttpConsole.Text (Bytes asciiLower)

/-! ## Groups of a list -/

section Groups

variable {Value : Type}

/-- The headers of a name that is given in small letters. -/
def headersOf (name : String) (headers : List (String × Value)) : List (String × Value) :=
  headers.filter fun header => asciiLower header.1 == name

/-- The names of headers in small letters, each where it appears first. -/
def smallNames (headers : List (String × Value)) : List String :=
  (headers.map fun header => asciiLower header.1).eraseDups

/-- Headers by their names, whatever the case: the groups in the order of their first members, and
the members of each in their order. -/
def groupByName (headers : List (String × Value)) : List (String × Value) :=
  (smallNames headers).flatMap fun name => headersOf name headers

theorem mem_smallNames {name : String} {headers : List (String × Value)} :
    name ∈ smallNames headers ↔ ∃ header ∈ headers, asciiLower header.1 = name := by
  rw [smallNames, List.mem_eraseDups, List.mem_map]

theorem headersOf_eq_nil {name : String} {headers : List (String × Value)}
    (absent : name ∉ smallNames headers) : headersOf name headers = [] := by
  refine List.filter_eq_nil_iff.mpr fun header member same => ?_
  exact absent (mem_smallNames.mpr ⟨header, member, eq_of_beq same⟩)

theorem headersOf_concat (name : String) (headers : List (String × Value))
    (header : String × Value) : headersOf name (headers ++ [header]) =
      headersOf name headers ++ if asciiLower header.1 = name then [header] else [] := by
  simp only [headersOf, List.filter_append, List.filter_cons, List.filter_nil, beq_iff_eq]

theorem smallNames_concat (headers : List (String × Value)) (header : String × Value) :
    smallNames (headers ++ [header]) =
      if asciiLower header.1 ∈ smallNames headers then smallNames headers
      else smallNames headers ++ [asciiLower header.1] := by
  simp only [smallNames, List.map_append, List.map_cons, List.map_nil, List.eraseDups_append,
    List.removeAll, List.mem_eraseDups]
  split
  · next present => simp [present]
  · next absent => simp [absent, List.eraseDups_cons]

theorem smallNames_nodup (headers : List (String × Value)) : (smallNames headers).Nodup := by
  induction headers using List.reverseRecOn with
  | nil => exact .nil
  | append_singleton headers header ih =>
      rw [smallNames_concat]
      split
      · exact ih
      · next absent => exact List.concat_eq_append ▸ List.Nodup.concat absent ih

private theorem flatMap_headersOf_perm {names : List String} (unique : names.Nodup)
    {headers : List (String × Value)} (named : ∀ header ∈ headers, asciiLower header.1 ∈ names) :
    (names.flatMap fun name => headersOf name headers).Perm headers := by
  induction names generalizing headers with
  | nil =>
      cases headers with
      | nil => exact .nil
      | cons header rest => cases named header List.mem_cons_self
  | cons first others ih =>
      rw [List.nodup_cons] at unique
      -- The headers of the first name are one part, and the others have theirs among the rest.
      let rest := headers.filter fun header => !(asciiLower header.1 == first)
      have later : ∀ name ∈ others, headersOf name headers = headersOf name rest := by
        intro name member
        rw [headersOf, headersOf, List.filter_filter]
        refine List.filter_congr fun header _ => ?_
        by_cases same : asciiLower header.1 = name
        · have apart : name ≠ first := fun equal => unique.1 (equal ▸ member)
          simp [same, apart]
        · simp [same]
      have restNamed : ∀ header ∈ rest, asciiLower header.1 ∈ others := by
        intro header member
        obtain ⟨present, different⟩ := List.mem_filter.mp member
        refine (List.mem_cons.mp (named header present)).resolve_left fun same => ?_
        simp [same] at different
      rw [List.flatMap_cons, List.flatMap_congr later]
      exact ((ih unique.2 restNamed).append_left _).trans (List.filter_append_perm _ headers)

/-- Grouping loses no header and adds none. -/
theorem groupByName_perm (headers : List (String × Value)) : (groupByName headers).Perm headers :=
  flatMap_headersOf_perm (smallNames_nodup headers) fun header member =>
    mem_smallNames.mpr ⟨header, member, rfl⟩

section Map

variable {Other : Type} (change : Value → Other)

theorem headersOf_map (name : String) (headers : List (String × Value)) :
    headersOf name (headers.map fun header => (header.1, change header.2)) =
      (headersOf name headers).map fun header => (header.1, change header.2) := by
  rw [headersOf, List.filter_map]
  rfl

/-- Grouping looks at names only. -/
theorem groupByName_map (headers : List (String × Value)) :
    groupByName (headers.map fun header => (header.1, change header.2)) =
      (groupByName headers).map fun header => (header.1, change header.2) := by
  have names : smallNames (headers.map fun header => (header.1, change header.2)) =
      smallNames headers := by
    rw [smallNames, List.map_map]
    rfl
  rw [groupByName, groupByName, names, List.map_flatMap]
  exact List.flatMap_congr fun name _ => headersOf_map change name headers

end Map

end Groups

/-! ## Groups of a map -/

private theorem appendValue_of_not_mem {name : String} (value : Bytes)
    {groups : List (String × List Bytes)} (absent : name ∉ groups.map Prod.fst) :
    appendValue name value groups = groups ++ [(name, [value])] := by
  induction groups with
  | nil => rfl
  | cons group rest ih =>
      rw [List.map_cons, List.mem_cons, not_or] at absent
      rw [appendValue, if_neg (Ne.symm absent.1), ih absent.2]
      rfl

private theorem appendValue_of_mem {name : String} (value : Bytes) {names : List String}
    (unique : names.Nodup) (present : name ∈ names) (values : String → List Bytes) :
    appendValue name value (names.map fun other => (other, values other)) =
      names.map fun other =>
        (other, values other ++ if name = other then [value] else []) := by
  induction names with
  | nil => cases present
  | cons first rest ih =>
      rw [List.nodup_cons] at unique
      rw [List.map_cons, List.map_cons, appendValue]
      by_cases same : first = name
      · subst same
        have others : ∀ other ∈ rest, (other, values other) =
            (other, values other ++ if first = other then [value] else []) := by
          intro other member
          have apart : first ≠ other := fun equal => unique.1 (equal ▸ member)
          rw [if_neg apart, List.append_nil]
        rw [if_pos rfl, if_pos rfl, List.map_congr_left others]
      · have later := (List.mem_cons.mp present).resolve_left (Ne.symm same)
        rw [if_neg same, if_neg (Ne.symm same), List.append_nil, ih unique.2 later]

/-- The groups of a map that was filled from a list are those of the list. -/
theorem groups_ofEntries (headers : List (String × Bytes)) :
    (HeaderMap.ofEntries headers).groups = (smallNames headers).map fun name =>
      (name, (headersOf name headers).map Prod.snd) := by
  induction headers using List.reverseRecOn with
  | nil => rfl
  | append_singleton headers header ih =>
      have step : (HeaderMap.ofEntries (headers ++ [header])).groups =
          appendValue (asciiLower header.1) header.2 (HeaderMap.ofEntries headers).groups := by
        rw [HeaderMap.ofEntries, List.foldl_append]
        rfl
      have values (name : String) : (headersOf name (headers ++ [header])).map Prod.snd =
          (headersOf name headers).map Prod.snd ++
            if asciiLower header.1 = name then [header.2] else [] := by
        rw [headersOf_concat, List.map_append]
        split <;> rfl
      simp only [step, ih, values, smallNames_concat]
      split
      · next present =>
          exact appendValue_of_mem header.2 (smallNames_nodup headers) present _
      · next absent =>
          have apart : ∀ name ∈ smallNames headers, asciiLower header.1 ≠ name :=
            fun name member same => absent (same ▸ member)
          rw [appendValue_of_not_mem, List.map_append, List.map_singleton, if_pos rfl,
            headersOf_eq_nil absent]
          · refine congrArg (· ++ _) (List.map_congr_left fun name member => ?_)
            rw [if_neg (apart name member), List.append_nil]
          · simpa [Function.comp_def] using absent

theorem entries_ofEntries (headers : List (String × Bytes)) :
    (HeaderMap.ofEntries headers).entries =
      (groupByName headers).map fun header => (asciiLower header.1, header.2) := by
  rw [HeaderMap.entries, groups_ofEntries, groupByName, List.map_flatMap, List.flatMap_map]
  refine List.flatMap_congr fun name _ => ?_
  dsimp only
  rw [List.map_map]
  refine List.map_congr_left fun header member => ?_
  rw [← eq_of_beq (List.mem_filter.mp member).2]
  rfl

/-- What a map holds under a name in small letters is what was added under it in any case. -/
theorem values_ofEntries (headers : List (String × Bytes)) (name : String) :
    (HeaderMap.ofEntries headers).values name = (headersOf name headers).map Prod.snd := by
  rw [HeaderMap.values, groups_ofEntries]
  by_cases present : name ∈ smallNames headers
  · rw [List.lookup_graph _ present]
    rfl
  · have absent : List.lookup name ((smallNames headers).map fun other =>
        (other, (headersOf other headers).map Prod.snd)) = none := by
      refine List.lookup_eq_none_iff.mpr fun group member => ?_
      obtain ⟨other, listed, rfl⟩ := List.mem_map.mp member
      exact bne_iff_ne.mpr fun same => present (same ▸ listed)
    rw [absent, headersOf_eq_nil present]
    rfl

/-! ## Values -/

private theorem isValueByte_iff (byte : UInt8) : isValueByte byte = true ↔
    byte.toNat = 0x09 ∨ (0x20 ≤ byte.toNat ∧ byte.toNat ≠ 0x7F) := by
  simp only [isValueByte, UInt8.le_iff_toNat_le, UInt8.reduceToNat, Bool.or_eq_true,
    Bool.and_eq_true, decide_eq_true_eq, bne_iff_ne, ne_eq, ← UInt8.toNat_inj, beq_iff_eq]
  exact or_comm

/-- A text that can be a header value: of the controls of ASCII it may hold only tabs. -/
def IsValueText (text : String) : Prop :=
  ∀ char ∈ text.toList, char = '\t' ∨ (0x20 ≤ char.toNat ∧ char.toNat ≠ 0x7F)

theorem isHeaderValue_encode_iff {text : String} :
    isHeaderValue (Text.encode text) = true ↔ IsValueText text := by
  rw [isHeaderValue, Text.encode, Text.encodeChars, List.all_flatMap, List.all_eq_true]
  refine forall₂_congr fun char _ => ?_
  have tab : char = '\t' ↔ char.toNat = 0x09 := Char.toNat_inj.symm
  by_cases small : char.toNat < 0x80
  · have code : (UInt8.ofNat char.toNat).toNat = char.toNat :=
      UInt8.toNat_ofNat_of_lt' (Nat.lt_trans small (by decide))
    rw [Text.utf8EncodeChar_of_ascii small, List.all_cons, List.all_nil, Bool.and_true,
      isValueByte_iff, code, tab]
  · have bytes : (String.utf8EncodeChar char).all isValueByte = true := by
      refine List.all_eq_true.mpr fun byte member => (isValueByte_iff byte).mpr ?_
      have beyond := Text.beyond_ascii_of_mem_utf8EncodeChar (Nat.le_of_not_lt small) member
      omega
    exact iff_of_true bytes (.inr (by omega))

end HttpConsole.Http
