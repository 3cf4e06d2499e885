import HttpConsole.Exchange.Standard
import HttpConsole.Proofs.Http.HeaderGroups

/-! What is built of a request. As long as the header map takes all headers, building fails if and
only if something is wrong with the method, the URL or a header or if the sender cannot be set up,
and tells the first such thing. What is built keeps every header, with the headers of one name
together, and shows it with the value that was written. -/

set_option autoImplicit false

namespace HttpConsole.Exchange

open HttpConsole.Text (asciiLower encode)

/-! ## Faults -/

/-- What is wrong with a header, in the order in which it is told: the name before the value. -/
def headerFaults (header : String × String) : List Failure :=
  (if Http.isHeaderName header.1 then [] else [.invalidHeader header.1 .name]) ++
    if Http.isHeaderValue (encode header.2) then [] else [.invalidHeader header.1 .value]

def methodFaults (method : String) : List Failure :=
  if Http.isToken method then [] else [.invalidMethod method]

def urlFaults (toAscii : Url.ToAscii) (url : String) : List Failure :=
  match Url.parse toAscii (normalizeUrl url) with
  | .ok _ => []
  | .error fault => [.invalidUrl (normalizeUrl url) fault]

def clientFaults (tools : Tools) (policy : Policy) : List Failure :=
  (tools.setUp policy).toList.map .client

/-- All that is wrong with a request: with its method, its URL, and each header as they were written
first, and that the sender cannot be set up for it. -/
def faults (tools : Tools) (request : Request) : List Failure :=
  methodFaults request.method ++ (urlFaults tools.toAscii request.url ++
    (request.headers.entries.flatMap headerFaults ++ clientFaults tools (.ofRequest request)))

/-- A header map that is made for these names takes them all. -/
def Tools.Holds (tools : Tools) (names : List String) : Prop :=
  ∀ taken, taken <+: names → tools.holdsHeaders names.length taken = true

theorem Tools.standard_holds {names : List String} (few : names.length ≤ maxHeaders) :
    standard.Holds names := fun _ _ =>
  decide_eq_true few

theorem eq_ok_of_toOption {Error Value : Type} {result : Except Error Value} {value : Value}
    (found : result.toOption = some value) : result = .ok value := by
  cases result with
  | error error => cases found
  | ok given => exact congrArg _ (Option.some.inj found)

/-- Any part that is known of a result shows that there is one. -/
theorem exists_ok {Error Value Part : Type} {result : Except Error Value} {part : Value → Part}
    {known : Part} (holds : result.toOption.map part = some known) :
    ∃ value, result = .ok value ∧ part value = known := by
  obtain ⟨value, found, same⟩ := Option.map_eq_some_iff.mp holds
  exact ⟨value, eq_ok_of_toOption found, same⟩

theorem readUrl_eq_ok_iff {toAscii : Url.ToAscii} {text : String} {url : Url} :
    readUrl toAscii text = .ok url ↔ Url.parse toAscii (normalizeUrl text) = .ok url := by
  unfold readUrl
  cases Url.parse toAscii (normalizeUrl text) with
  | ok address => simp
  | error fault => simp

theorem urlFaults_eq_nil_iff {toAscii : Url.ToAscii} {text : String} :
    urlFaults toAscii text = [] ↔ ∃ url, Url.parse toAscii (normalizeUrl text) = .ok url := by
  unfold urlFaults
  cases Url.parse toAscii (normalizeUrl text) with
  | ok address => simp
  | error fault => simp

/-- A URL is read, or its one fault is told. -/
theorem readUrl_cases (toAscii : Url.ToAscii) (text : String) :
    (∃ url, readUrl toAscii text = .ok url ∧ urlFaults toAscii text = []) ∨
      ∃ failure, readUrl toAscii text = .error (.failure failure) ∧
        urlFaults toAscii text = [failure] := by
  unfold readUrl urlFaults
  cases Url.parse toAscii (normalizeUrl text) with
  | ok url => exact .inl ⟨url, rfl, rfl⟩
  | error fault => exact .inr ⟨_, rfl, rfl⟩

theorem headerFaults_eq_nil_iff {header : String × String} :
    headerFaults header = [] ↔
      Http.isHeaderName header.1 = true ∧ Http.IsValueText header.2 := by
  rw [← Http.isHeaderValue_encode_iff, headerFaults, List.append_eq_nil_iff]
  simp

/-- Headers that are all taken are added up to the first fault, which is told. -/
theorem readHeaders_of_holds {tools : Tools} {count : Nat} {taken : List String}
    {headers : Http.HeaderMap} {entries : List (String × String)}
    (holds : ∀ more, more <+: entries.map Prod.fst →
      tools.holdsHeaders count (taken ++ more) = true) :
    readHeaders tools count taken headers entries =
      match (entries.flatMap headerFaults).head? with
      | some failure => .error (.failure failure)
      | none => .ok (entries.foldl (fun headers header =>
          headers.append header.1 (encode header.2)) headers) := by
  induction entries generalizing taken headers with
  | nil => rfl
  | cons entry rest ih =>
      obtain ⟨name, value⟩ := entry
      have here : tools.holdsHeaders count (taken ++ [name]) = true :=
        holds [name] (List.prefix_append [name] (rest.map Prod.fst))
      have later := @ih (taken ++ [name]) (headers.append name (encode value)) fun more begins => by
        rw [List.append_assoc]
        exact holds _ (List.cons_prefix_cons.mpr ⟨rfl, begins⟩)
      rw [readHeaders, List.flatMap_cons]
      cases named : Http.isHeaderName name with
      | false => simp [headerFaults, named]
      | true =>
          cases valued : Http.isHeaderValue (encode value) with
          | false => simp [headerFaults, named, valued]
          | true => simpa [headerFaults, named, valued, here] using later

theorem collectHeaders_of_holds {tools : Tools} {entries : List (String × String)}
    (holds : tools.Holds (entries.map Prod.fst)) :
    (∃ map, collectHeaders tools entries = .ok map ∧ entries.flatMap headerFaults = []) ∨
      ∃ failure, collectHeaders tools entries = .error (.failure failure) ∧
        (entries.flatMap headerFaults).head? = some failure := by
  have start : tools.holdsHeaders entries.length [] = true := by
    simpa using holds [] List.nil_prefix
  have reads := @readHeaders_of_holds tools entries.length [] .empty entries fun more begins => by
    simpa using holds more begins
  rw [collectHeaders, start, Bool.not_true, if_neg Bool.false_ne_true, reads]
  cases first : (entries.flatMap headerFaults).head? with
  | none => exact .inl ⟨_, rfl, List.head?_eq_none_iff.mp first⟩
  | some failure => exact .inr ⟨failure, rfl, rfl⟩

theorem readHeaders_eq_ok {tools : Tools} {count : Nat} {taken : List String}
    {headers map : Http.HeaderMap} {entries : List (String × String)}
    (reads : readHeaders tools count taken headers entries = .ok map) :
    map = entries.foldl (fun headers header =>
      headers.append header.1 (encode header.2)) headers := by
  induction entries generalizing taken headers with
  | nil =>
      cases reads
      rfl
  | cons entry rest ih =>
      obtain ⟨name, value⟩ := entry
      simp only [readHeaders, ite_eq_iff, reduceCtorEq, and_false, false_or] at reads
      exact ih reads.2.2.2

theorem collectHeaders_eq_ok {tools : Tools} {map : Http.HeaderMap}
    {entries : List (String × String)} (collects : collectHeaders tools entries = .ok map) :
    readHeaders tools entries.length [] .empty entries = .ok map := by
  unfold collectHeaders at collects
  split at collects
  · cases collects
  · exact collects

/-! ## Building -/

section Building

variable {tools : Tools} {request : Request}

theorem build_eq_ok {outgoing : Outgoing} (built : build tools request = .ok outgoing) :
    Http.isToken request.method = true ∧ ∃ url headers,
    readUrl tools.toAscii request.url = .ok url ∧
    collectHeaders tools request.headers.entries = .ok headers ∧
    outgoing = {
      method := request.method
      url := url
      headers := headers
      policy := .ofRequest request } := by
  unfold build at built
  split at built
  · cases built
  · next token =>
      refine ⟨by simpa using token, ?_⟩
      cases url : readUrl tools.toAscii request.url with
      | error halt => simp [url, bind, Except.bind] at built
      | ok address =>
          cases headers : collectHeaders tools request.headers.entries with
          | error halt => simp [url, headers, bind, Except.bind] at built
          | ok map =>
              simp only [url, headers, bind, Except.bind] at built
              split at built
              · cases built
              · cases built
                exact ⟨address, map, rfl, rfl, rfl⟩

/-- As long as the header map takes all headers, a request is built if nothing is wrong with it, and
if something is, the first such thing is told. -/
theorem build_of_holds (holds : tools.Holds (request.headers.entries.map Prod.fst)) :
    (∃ outgoing, build tools request = .ok outgoing ∧ faults tools request = []) ∨
      ∃ failure, build tools request = .error (.failure failure) ∧
        (faults tools request).head? = some failure := by
  unfold build faults methodFaults
  cases token : Http.isToken request.method with
  | false => exact .inr ⟨_, rfl, rfl⟩
  | true =>
      rcases readUrl_cases tools.toAscii request.url with ⟨url, reads, fine⟩ | ⟨failure, fails, told⟩
      · rcases collectHeaders_of_holds holds with ⟨map, collects, clean⟩ | ⟨failure, fails, first⟩
        · cases sets : tools.setUp (.ofRequest request) with
          | none =>
              let outgoing : Outgoing :=
                { method := request.method, url := url, headers := map, policy := .ofRequest request }
              refine .inl ⟨outgoing, ?_, by simp [fine, clean, clientFaults, sets]⟩
              simp only [reads, collects, bind, Except.bind]
              rfl
          | some error =>
              refine .inr ⟨.client error, ?_, by simp [fine, clean, clientFaults, sets]⟩
              simp only [reads, collects, bind, Except.bind]
              rfl
        · refine .inr ⟨failure, ?_, by simp [fine, List.head?_append, first]⟩
          simp only [reads, fails, bind, Except.bind]
          rfl
      · refine .inr ⟨failure, ?_, by simp [told]⟩
        simp only [fails, bind, Except.bind]
        rfl

theorem build_eq_failure_iff (holds : tools.Holds (request.headers.entries.map Prod.fst))
    {failure : Failure} : build tools request = .error (.failure failure) ↔
      (faults tools request).head? = some failure := by
  rcases build_of_holds holds with ⟨outgoing, built, none⟩ | ⟨first, fails, head⟩
  · simp [built, none]
  · simp [fails, head]

/-- A request with more headers than a header map can be made for crashes, if nothing is wrong
before its headers are looked at. -/
theorem build_eq_crash (lawful : tools.Lawful) (token : Http.isToken request.method = true)
    {url : Url} (reads : readUrl tools.toAscii request.url = .ok url)
    (many : maxHeaders < request.headers.entries.length) :
    build tools request = .error .crash := by
  have full : tools.holdsHeaders request.headers.entries.length [] = false := by
    refine Bool.eq_false_iff.mpr fun holds => ?_
    exact Nat.not_lt.mpr (lawful.bounded _ _ holds) many
  simp [build, token, reads, collectHeaders, full, bind, Except.bind]

/-! ## Lines -/

/-- A header as it is shown: the name in its canonical form, and the value as it was written. -/
def headerText (header : String × String) : String :=
  Http.canonicalName (asciiLower header.1) ++ " : " ++ header.2

variable {outgoing : Outgoing}

theorem headers_of_build (built : build tools request = .ok outgoing) : outgoing.headers =
    .ofEntries (request.headers.entries.map fun header => (header.1, encode header.2)) := by
  obtain ⟨-, url, headers, -, collects, rfl⟩ := build_eq_ok built
  rw [readHeaders_eq_ok (collectHeaders_eq_ok collects), Http.HeaderMap.ofEntries, List.foldl_map]

theorem lines_of_build (built : build tools request = .ok outgoing) : outgoing.lines =
    (request.method ++ " " ++ outgoing.url.render) ::
      (Http.groupByName request.headers.entries).map headerText := by
  have headers := headers_of_build built
  obtain ⟨-, url, map, -, -, rfl⟩ := build_eq_ok built
  dsimp only at headers
  rw [Outgoing.lines, Http.HeaderMap.lines]
  dsimp only
  rw [headers, Http.entries_ofEntries, Http.groupByName_map, List.map_map, List.map_map]
  refine congrArg _ (List.map_congr_left fun header _ => ?_)
  simp only [Function.comp_apply, Http.headerLine, Text.decodeLossy_encode]
  rfl

end Building

/-- As long as the header map takes the headers, building fails exactly if the method is no token,
the completed URL cannot be read, a header has a name or a value that is none, or the sender cannot
be set up, and it tells the first of these faults in this order. Otherwise there is a line for the
method and the URL and then one for each header, with the headers of one name together and each
value as it was written. -/
theorem build_tells_first_fault_or_keeps_headers (tools : Tools) (request : Request)
    (holds : tools.Holds (request.headers.entries.map Prod.fst)) :
    ((∃ failure, build tools request = .error (.failure failure)) ↔
      Http.isToken request.method = false ∨
      (∃ fault, Url.parse tools.toAscii (normalizeUrl request.url) = .error fault) ∨
      (∃ header ∈ request.headers.entries,
        Http.isHeaderName header.1 = false ∨ ¬ Http.IsValueText header.2) ∨
      ∃ error, tools.setUp (.ofRequest request) = some error) ∧
    (∀ failure, build tools request = .error (.failure failure) ↔
      (faults tools request).head? = some failure) ∧
    ((∀ failure, build tools request ≠ .error (.failure failure)) →
      ∃ outgoing, build tools request = .ok outgoing ∧
        Url.parse tools.toAscii (normalizeUrl request.url) = .ok outgoing.url ∧
        (Http.groupByName request.headers.entries).Perm request.headers.entries ∧
        outgoing.lines = (request.method ++ " " ++ outgoing.url.render) ::
          (Http.groupByName request.headers.entries).map headerText) := by
  refine ⟨?_, fun failure => build_eq_failure_iff holds, fun unfailing => ?_⟩
  · have method : methodFaults request.method ≠ [] ↔ Http.isToken request.method = false := by
      simp [methodFaults]
    have url : urlFaults tools.toAscii request.url ≠ [] ↔
        ∃ fault, Url.parse tools.toAscii (normalizeUrl request.url) = .error fault := by
      rw [ne_eq, urlFaults_eq_nil_iff]
      cases Url.parse tools.toAscii (normalizeUrl request.url) with
      | ok address => simp
      | error fault => simp
    have headers : request.headers.entries.flatMap headerFaults ≠ [] ↔
        ∃ header ∈ request.headers.entries,
          Http.isHeaderName header.1 = false ∨ ¬ Http.IsValueText header.2 := by
      simp only [ne_eq, List.flatMap_eq_nil_iff, headerFaults_eq_nil_iff, not_forall, not_and_or,
        Bool.not_eq_true, exists_prop]
    have client : clientFaults tools (.ofRequest request) ≠ [] ↔
        ∃ error, tools.setUp (.ofRequest request) = some error := by
      cases sets : tools.setUp (.ofRequest request) <;> simp [clientFaults, sets]
    simp only [build_eq_failure_iff holds, ← Option.isSome_iff_exists, List.isSome_head?]
    rw [faults, ← method, ← url, ← headers, Option.isSome_iff_exists, ← client]
    simp only [ne_eq, List.append_eq_nil_iff, not_and_or]
  · rcases build_of_holds holds with ⟨outgoing, built, -⟩ | ⟨failure, fails, -⟩
    · refine ⟨outgoing, built, ?_, Http.groupByName_perm _, lines_of_build built⟩
      obtain ⟨-, url, headers, reads, -, rfl⟩ := build_eq_ok built
      exact readUrl_eq_ok_iff.mp reads
    · exact absurd fails (unfailing failure)

theorem build_keeps_headers_of_one_name :
    ∃ request, Request.parse "GET x b: 1 A: 2 B: 3" = .ok request ∧
      Tools.standard.Holds (request.headers.entries.map Prod.fst) ∧
      ∃ outgoing, build .standard request = .ok outgoing ∧
        outgoing.lines = ["GET https://x/", "B : 1", "B : 3", "A : 2"] := by
  obtain ⟨request, read, three⟩ : ∃ request, Request.parse "GET x b: 1 A: 2 B: 3" = .ok request ∧
      (request.headers.entries.map Prod.fst).length = 3 :=
    exists_ok (by decide +kernel)
  obtain ⟨outgoing, prepared, lines⟩ : ∃ outgoing,
      prepare .standard "GET x b: 1 A: 2 B: 3" = .ok outgoing ∧
        outgoing.lines = ["GET https://x/", "B : 1", "B : 3", "A : 2"] :=
    exists_ok (by decide +kernel)
  have built : build .standard request = .ok outgoing := by
    rwa [prepare, read] at prepared
  have holds : Tools.standard.Holds (request.headers.entries.map Prod.fst) :=
    Tools.standard_holds (three ▸ by decide)
  obtain ⟨-, -, kept⟩ := build_tells_first_fault_or_keeps_headers .standard request holds
  obtain ⟨same, again, -, -, -⟩ := kept fun failure fails => by cases built.symm.trans fails
  cases built.symm.trans again
  exact ⟨request, read, holds, outgoing, again, lines⟩

end HttpConsole.Exchange
