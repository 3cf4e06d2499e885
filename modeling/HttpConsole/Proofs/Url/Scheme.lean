import HttpConsole.Proofs.Url.Reading

/-! The scheme of a URL. Cleaning the text of a URL keeps what it begins with, and reading it keeps
the scheme that it names. -/

set_option autoImplicit false

namespace HttpConsole.Url

private theorem dropWhile_of_bare (start rest : List Char)
    (bare : ∀ char ∈ start, 0x20 < char.toNat) (nonempty : start ≠ []) :
    (start ++ rest).dropWhile (fun char => char.toNat ≤ 0x20) = start ++ rest := by
  cases start with
  | nil => exact absurd rfl nonempty
  | cons first others =>
      exact List.dropWhile_cons_of_neg (by simpa using bare first List.mem_cons_self)

private theorem filter_of_bare {start : List Char} (bare : ∀ char ∈ start, 0x20 < char.toNat) :
    start.filter (fun char => char != '\t' && char != '\n' && char != '\r') = start := by
  refine List.filter_eq_self.mpr fun char member => ?_
  have differs (control : Char) (low : control.toNat ≤ 0x20) : char ≠ control := by
    rintro rfl
    exact Nat.not_le.mpr (bare char member) low
  simp [differs '\t' (by decide), differs '\n' (by decide), differs '\r' (by decide)]

/-- What a text begins with is kept when the text is cleaned, if it is free of blanks and
controls. -/
theorem clean_append (start rest : List Char) (bare : ∀ char ∈ start, 0x20 < char.toNat)
    (nonempty : start ≠ []) : ∃ kept, clean (start ++ rest) = start ++ kept := by
  let isOuter := fun char : Char => decide (char.toNat ≤ 0x20)
  have front : (start ++ rest).dropWhile isOuter = start ++ rest :=
    dropWhile_of_bare start rest bare nonempty
  have back : start.reverse.dropWhile isOuter = start.reverse := by
    have whole := dropWhile_of_bare start.reverse [] (fun char member =>
      bare char (List.mem_reverse.mp member)) (List.reverse_ne_nil_iff.mpr nonempty)
    rw [List.append_nil] at whole
    exact whole
  have trimmed : ∃ kept, ((start ++ rest).reverse.dropWhile isOuter).reverse = start ++ kept := by
    rw [List.reverse_append, List.dropWhile_append]
    split
    · exact ⟨[], by rw [back, List.reverse_reverse, List.append_nil]⟩
    · exact ⟨_, by rw [List.reverse_append, List.reverse_reverse]⟩
  obtain ⟨kept, trimmed⟩ := trimmed
  rw [clean, front, trimmed, List.filter_append, filter_of_bare bare]
  exact ⟨_, rfl⟩

/-- A text that is put behind something is cleaned as it is cleaned alone, but that the blanks and
controls in front of it stay. -/
theorem clean_append_filled (start text : List Char) (bare : ∀ char ∈ start, 0x20 < char.toNat)
    (nonempty : start ≠ []) (filled : clean text ≠ []) :
    ∃ gap, (∀ char ∈ gap, char.toNat ≤ 0x20) ∧
      clean (start ++ text) = start ++ (gap ++ clean text) := by
  let isOuter := fun char : Char => decide (char.toNat ≤ 0x20)
  -- The blanks in front of the text are inner ones now. Of what is behind them the end is trimmed.
  have whole : start ++ text =
      (start ++ text.takeWhile isOuter) ++ text.dropWhile isOuter := by
    rw [List.append_assoc, List.takeWhile_append_dropWhile]
  have ends : (text.dropWhile isOuter).reverse.dropWhile isOuter ≠ [] := by
    intro none
    refine filled ?_
    rw [clean, none]
    rfl
  have trimmed (front : List Char) :
      ((front ++ text.dropWhile isOuter).reverse.dropWhile isOuter).reverse =
        front ++ ((text.dropWhile isOuter).reverse.dropWhile isOuter).reverse := by
    rw [List.reverse_append, List.dropWhile_append,
      if_neg (by rwa [List.isEmpty_iff]), List.reverse_append, List.reverse_reverse]
  refine ⟨(text.takeWhile isOuter).filter fun char => char != '\t' && char != '\n' && char != '\r',
    fun char member => ?_, ?_⟩
  · have outer := List.all_eq_true.mp List.all_takeWhile char (List.mem_filter.mp member).1
    exact of_decide_eq_true outer
  · rw [clean, dropWhile_of_bare start text bare nonempty, whole, trimmed, List.filter_append,
      List.filter_append, filter_of_bare bare, List.append_assoc]
    rfl

theorem scheme_readBehindSlashes {toAscii : ToAscii} {scheme : String} {text : List Char}
    {url : Url} (reads : readBehindSlashes toAscii scheme text = .ok url) : url.scheme = scheme := by
  obtain ⟨authority, -, rfl⟩ := readBehindSlashes_eq_ok reads
  rfl

/-- A URL has the scheme that its text names. -/
theorem scheme_readScheme {toAscii : ToAscii} {scheme : String} {text : List Char} {url : Url}
    (reads : readScheme toAscii scheme text = .ok url) : url.scheme = scheme := by
  unfold readScheme at reads
  split at reads
  · exact scheme_readBehindSlashes reads
  · unfold readOther at reads
    split at reads
    · exact scheme_readBehindSlashes reads
    · cases reads
      rfl

theorem bare_secure : ∀ char ∈ "https://".toList, 0x20 < char.toNat := by simp

/-- A text that `https://` is put in front of is a URL of that scheme. -/
theorem scheme_of_completed {toAscii : ToAscii} {text : String} {url : Url}
    (reads : parse toAscii ("https://" ++ text) = .ok url) : url.scheme = "https" := by
  obtain ⟨kept, cleaned⟩ := clean_append _ text.toList bare_secure (by decide)
  rw [parse, String.toList_append, cleaned] at reads
  have secure : readScheme toAscii "https" ('/' :: '/' :: kept) = .ok url := reads
  exact scheme_readScheme secure

end HttpConsole.Url
