import HttpConsole.Http.Status
import HttpConsole.Proofs.Http.CanonicalName
import HttpConsole.Proofs.Http.HeaderGroups
import HttpConsole.Proofs.Text.Order

/-! The head of a response. Each of its headers has one line there, and where this line is depends on
its text alone. -/

set_option autoImplicit false

namespace HttpConsole.Http

open HttpConsole.Text (Bytes asciiLower InByteOrder sortByBytes)

theorem headerLine_asciiLower (name : String) (value : Bytes) :
    headerLine (asciiLower name) value = headerLine name value := by
  rw [headerLine, headerLine, canonicalName_asciiLower]

/-- The names are grouped and their letters are small by then, but no header is lost. -/
theorem lines_ofEntries_perm (headers : List (String × Bytes)) :
    (HeaderMap.ofEntries headers).lines.Perm
      (headers.map fun header => headerLine header.1 header.2) := by
  have grouped : (HeaderMap.ofEntries headers).lines =
      (groupByName headers).map fun header => headerLine header.1 header.2 := by
    rw [HeaderMap.lines, entries_ofEntries, List.map_map]
    exact List.map_congr_left fun header _ => headerLine_asciiLower header.1 header.2
  rw [grouped]
  exact (groupByName_perm headers).map _

/-- Headers with the same names, in whatever case, and the same values have the same lines. -/
theorem headerLines_perm {headers others : List (String × Bytes)}
    (same : (others.map fun header => (asciiLower header.1, header.2)).Perm
      (headers.map fun header => (asciiLower header.1, header.2))) :
    (others.map fun header => headerLine header.1 header.2).Perm
      (headers.map fun header => headerLine header.1 header.2) := by
  have small (list : List (String × Bytes)) :
      (list.map fun header => (asciiLower header.1, header.2)).map
        (fun header => headerLine header.1 header.2) =
          list.map fun header => headerLine header.1 header.2 := by
    rw [List.map_map]
    exact List.map_congr_left fun header _ => headerLine_asciiLower header.1 header.2
  have lines := same.map fun header => headerLine header.1 header.2
  rw [small, small] at lines
  exact lines

/-- Behind the status line of a response are the lines of all its headers in the order of their
bytes, each as often as the header is there. Neither the order in which the headers came nor the case
of their names makes a difference. -/
theorem response_head_is_sorted_headers (status : Status) (headers : List (String × Bytes)) :
    ∃ lines, responseLines status (.ofEntries headers) = status.line :: lines ∧
      lines.Perm (headers.map fun header => headerLine header.1 header.2) ∧
      InByteOrder lines ∧
      ∀ others : List (String × Bytes),
        (others.map fun header => (asciiLower header.1, header.2)).Perm
          (headers.map fun header => (asciiLower header.1, header.2)) →
        responseLines status (.ofEntries others) = responseLines status (.ofEntries headers) := by
  have complete (list : List (String × Bytes)) :
      (sortByBytes (HeaderMap.ofEntries list).lines).Perm
        (list.map fun header => headerLine header.1 header.2) :=
    (Text.sortByBytes_perm _).trans (lines_ofEntries_perm list)
  refine ⟨_, rfl, complete headers, Text.inByteOrder_sortByBytes _, ?_⟩
  intro others same
  have equal : (sortByBytes (HeaderMap.ofEntries others).lines).Perm
      (sortByBytes (HeaderMap.ofEntries headers).lines) :=
    ((complete others).trans (headerLines_perm same)).trans (complete headers).symm
  have lines := (Text.inByteOrder_sortByBytes _).eq_of_perm (Text.inByteOrder_sortByBytes _) equal
  exact congrArg (status.line :: ·) lines

end HttpConsole.Http
