import Mathlib
import HttpConsole.Proofs.Exchange.Standard
import HttpConsole.Proofs.Request.Writable

/-! A request with one header more than a header map can be made for. Some text says it and nothing
is wrong with any of its parts, and yet it crashes when it is built. -/

set_option autoImplicit false

namespace HttpConsole.Exchange

open HttpConsole.Request (IsWordShaped isBlank parse)

def numberedName (number : Nat) : String :=
  "h" ++ number.repr

def numberedHeaders (count : Nat) : List (String × String) :=
  (List.range count).map fun number => (numberedName number, "")

theorem length_numberedHeaders (count : Nat) : (numberedHeaders count).length = count := by
  rw [numberedHeaders, List.length_map, List.length_range]

theorem mem_numberedHeaders {count : Nat} {header : String × String}
    (member : header ∈ numberedHeaders count) :
    ∃ number < count, header = (numberedName number, "") := by
  obtain ⟨number, inside, rfl⟩ := List.mem_map.mp member
  exact ⟨number, List.mem_range.mp inside, rfl⟩

theorem numberedName_injective : Function.Injective numberedName := fun _ _ same =>
  Nat.repr_injective ((String.append_right_inj "h").mp same)

/-- A request with so many headers, whose names differ. -/
def numberedRequest (count : Nat) : Request where
  method := "GET"
  url := "x"
  headers := {
    entries := numberedHeaders count
    names_nodup := by
      rw [numberedHeaders, List.map_map]
      exact List.nodup_range.map numberedName_injective }
  flags := .empty

/-- A request with one header more than a header map can be made for. -/
def crowdedRequest : Request :=
  numberedRequest (maxHeaders + 1)

section Name

variable (number : Nat)

theorem toList_numberedName :
    (numberedName number).toList = 'h' :: Nat.toDigits 10 number := by
  rw [numberedName, String.toList_append, Nat.repr]
  exact congrArg _ String.toList_ofList

theorem numberedName_ne_empty : numberedName number ≠ "" := fun empty => by
  have impossible := toList_numberedName number
  rw [empty] at impossible
  cases impossible

theorem isAlphanum_of_mem_numberedName :
    ∀ char ∈ (numberedName number).toList, char.isAlphanum = true := by
  intro char member
  rw [toList_numberedName, List.mem_cons] at member
  rcases member with rfl | digit
  · rfl
  · rw [Char.isAlphanum, Nat.isDigit_of_mem_toDigits (by decide) (by decide) digit, Bool.or_true]

theorem isWordShaped_numberedName : IsWordShaped (numberedName number) where
  nonempty := numberedName_ne_empty number
  inside := fun char member => by
    have alphanum := isAlphanum_of_mem_numberedName number char member
    have differs : ∀ sign : Char, sign.isAlphanum = false → char ≠ sign := fun sign other same => by
      rw [same, other] at alphanum
      cases alphanum
    exact ⟨by simp [isBlank, differs], differs ':' rfl⟩
  start := fun char head => by
    rw [toList_numberedName] at head
    cases head
    decide

theorem isHeaderName_numberedName {number : Nat} (few : number < 10 ^ 5) :
    Http.isHeaderName (numberedName number) = true := by
  have token : Http.isToken (numberedName number) = true := by
    rw [Http.isToken, Bool.and_eq_true, List.all_eq_true]
    refine ⟨bne_iff_ne.mpr (numberedName_ne_empty number), fun char member => ?_⟩
    rw [Http.isTokenChar, isAlphanum_of_mem_numberedName number char member, Bool.true_or]
  have short : (numberedName number).length ≤ Http.maxHeaderNameLength := by
    have digits := Nat.toDigits_length 10 number 5 (by decide) few
    rw [← String.length_toList, toList_numberedName, List.length_cons]
    exact Nat.le_trans (Nat.succ_le_succ digits) (by decide)
  rw [Http.isHeaderName, token, decide_eq_true short]
  rfl

end Name

theorem isWritable_numberedRequest (count : Nat) : (numberedRequest count).IsWritable := by
  have method : IsWordShaped "GET" := {
    nonempty := by decide
    inside := by simp [isBlank]
    start := by simp [Request.quoteMark] }
  have url : Request.quoteMark ∉ "x".toList := by decide
  exact {
    method := method
    url_nonempty := by simp [numberedRequest]
    url := .inr url
    names := fun header member => by
      obtain ⟨number, -, rfl⟩ := mem_numberedHeaders member
      exact isWordShaped_numberedName number
    values := fun header member => by
      obtain ⟨number, -, rfl⟩ := mem_numberedHeaders member
      exact .inr List.not_mem_nil
    flags := fun _ impossible => absurd impossible List.not_mem_nil }

/-- Nothing is wrong with the method, the URL or a header. -/
structure IsFine (toAscii : Url.ToAscii) (request : Request) : Prop where
  method : Http.isToken request.method = true
  url : ∃ url, Url.parse toAscii (normalizeUrl request.url) = .ok url
  headers : ∀ header ∈ request.headers.entries,
    Http.isHeaderName header.1 = true ∧ Http.IsValueText header.2

theorem IsFine.faults {tools : Tools} {request : Request} (fine : IsFine tools.toAscii request) :
    faults tools request = clientFaults tools (.ofRequest request) := by
  obtain ⟨url, reads⟩ := fine.url
  have headers : request.headers.entries.flatMap headerFaults = [] :=
    List.flatMap_eq_nil_iff.mpr fun header member =>
      headerFaults_eq_nil_iff.mpr (fine.headers header member)
  rw [Exchange.faults, headers, urlFaults_eq_nil_iff.mpr ⟨url, reads⟩, methodFaults,
    if_pos fine.method]
  rfl

theorem isFine_numberedRequest {count : Nat} (few : count ≤ 10 ^ 5) :
    IsFine Url.asciiOnly (numberedRequest count) where
  method := by
    have token : Http.isToken "GET" = true := by decide +kernel
    exact token
  url := by
    obtain ⟨url, reads, -⟩ : ∃ url, Url.parse Url.asciiOnly (normalizeUrl "x") = .ok url ∧
        url.render = "https://x/" :=
      exists_ok (by decide +kernel)
    exact ⟨url, reads⟩
  headers := fun header member => by
    obtain ⟨number, below, rfl⟩ := mem_numberedHeaders member
    exact ⟨isHeaderName_numberedName (Nat.lt_of_lt_of_le below few),
      fun _ impossible => nomatch impossible⟩

theorem isFine_crowdedRequest : IsFine Url.asciiOnly crowdedRequest :=
  isFine_numberedRequest (by norm_num [maxHeaders])

theorem parse_crowdedRequest : parse crowdedRequest.written = .ok crowdedRequest :=
  Request.parse_written (isWritable_numberedRequest _)

theorem build_crowdedRequest : build .standard crowdedRequest = .error .crash := by
  obtain ⟨token, ⟨url, reads⟩, -⟩ := isFine_crowdedRequest
  refine build_eq_crash Tools.standard_lawful token (readUrl_eq_ok_iff.mpr reads) ?_
  rw [crowdedRequest, numberedRequest, length_numberedHeaders]
  exact Nat.lt_succ_self maxHeaders

theorem prepare_crowdedRequest : prepare .standard crowdedRequest.written = .error .crash := by
  rw [prepare, parse_crowdedRequest]
  exact build_crowdedRequest

/-- Requests with which nothing is wrong are not built: one because the sender cannot be set up, and
one because it has too many headers. -/
theorem fine_requests_not_built :
    let error : LibraryError := { text := "builder error" }
    let tools : Tools := { Tools.standard with setUp := fun _ => some error }
    tools.Lawful ∧
      (∃ text request, parse text = .ok request ∧ IsFine tools.toAscii request ∧
        build tools request = .error (.failure (.client error))) ∧
      ∃ text request, parse text = .ok request ∧ IsFine Tools.standard.toAscii request ∧
        build .standard request = .error .crash := by
  intro error tools
  have fine : IsFine tools.toAscii (numberedRequest 0) := isFine_numberedRequest (Nat.zero_le _)
  have holds : tools.Holds ((numberedRequest 0).headers.entries.map Prod.fst) :=
    Tools.standard_holds (Nat.zero_le maxHeaders)
  have fails : build tools (numberedRequest 0) = .error (.failure (.client error)) := by
    rw [build_eq_failure_iff holds, fine.faults]
    rfl
  exact ⟨⟨Tools.standard_lawful.toAscii, Tools.standard_lawful.bounded⟩,
    ⟨_, _, Request.parse_written (isWritable_numberedRequest 0), fine, fails⟩,
    ⟨_, _, parse_crowdedRequest, isFine_crowdedRequest, build_crowdedRequest⟩⟩

end HttpConsole.Exchange
