import HttpConsole.Exchange.Standard
import HttpConsole.Proofs.Exchange.Building
import HttpConsole.Proofs.Url.Completion

/-! Where a request goes whose URL is one of the web already. It goes there if the text of the URL
begins with the scheme in small letters and both slashes. Any other text is completed, so that the
name of its scheme is taken for a host or a user name. -/

set_option autoImplicit false

namespace HttpConsole.Exchange

/-- A text that begins as a URL of the web is written. -/
def NamesWeb (text : String) : Prop :=
  "http://".toList <+: text.toList ∨ "https://".toList <+: text.toList

theorem normalizeUrl_of_namesWeb {text : String} (names : NamesWeb text) :
    normalizeUrl text = text :=
  if_pos ((Bool.or_eq_true ..).mpr (names.imp List.isPrefixOf_iff_prefix.mpr
    List.isPrefixOf_iff_prefix.mpr))

theorem normalizeUrl_of_not_namesWeb {text : String} (unnamed : ¬ NamesWeb text) :
    normalizeUrl text = "https://" ++ text := by
  refine if_neg fun begins => unnamed ?_
  exact ((Bool.or_eq_true ..).mp begins).imp List.isPrefixOf_iff_prefix.mp
    List.isPrefixOf_iff_prefix.mp

theorem readUrl_of_namesWeb {toAscii : Url.ToAscii} {text : String} {url : Url}
    (names : NamesWeb text) (reads : Url.parse toAscii text = .ok url) :
    readUrl toAscii text = .ok url :=
  readUrl_eq_ok_iff.mpr (by rw [normalizeUrl_of_namesWeb names, reads])

theorem readHeaders_ne_invalidUrl (tools : Tools) (count : Nat) (taken : List String)
    (headers : Http.HeaderMap) (entries : List (String × String)) (text : String)
    (fault : Url.Fault) :
    readHeaders tools count taken headers entries ≠ .error (.failure (.invalidUrl text fault)) := by
  induction entries generalizing taken headers with
  | nil => simp [readHeaders]
  | cons entry rest ih =>
      obtain ⟨name, value⟩ := entry
      simp [readHeaders, ite_eq_iff, ih]

/-- A fault of the URL is told only if the URL cannot be read. -/
theorem build_ne_invalidUrl {tools : Tools} {request : Request} {url : Url}
    (reads : readUrl tools.toAscii request.url = .ok url) (text : String) (fault : Url.Fault) :
    build tools request ≠ .error (.failure (.invalidUrl text fault)) := by
  unfold build
  split
  · exact nofun
  · simp only [reads, bind, Except.bind]
    cases collects : collectHeaders tools request.headers.entries with
    | error halt =>
        rintro ⟨rfl⟩
        unfold collectHeaders at collects
        split at collects
        · cases collects
        · exact readHeaders_ne_invalidUrl _ _ _ _ _ _ _ collects
    | ok map =>
        dsimp only
        split <;> exact nofun

/-- A URL of the web whose text is completed goes over https, to the host that the name of its
scheme is taken for or to another authority. -/
theorem displaced_of_not_namesWeb {toAscii : Url.ToAscii} (lawful : toAscii.Lawful)
    {text : String} {own url : Url} (unnamed : ¬ NamesWeb text)
    (parsed : Url.parse toAscii text = .ok own)
    (web : own.scheme = "http" ∨ own.scheme = "https") (reads : readUrl toAscii text = .ok url) :
    url.scheme = "https" ∧
      (url.hostText = own.scheme ∨ url.authority ≠ own.authority) := by
  rw [readUrl_eq_ok_iff, normalizeUrl_of_not_namesWeb unnamed] at reads
  exact ⟨Url.scheme_of_completed reads,
    Url.hostText_or_authority_of_completed lawful web parsed reads⟩

/-- A request whose URL is one of the web already goes to that URL, which is not refused then, if
the text of the URL begins with the scheme in small letters and both slashes. With any other text it
is refused, or goes over https to the host that the name of the scheme is taken for or to another
authority. That is the same URL only if its own host is named `https`. -/
theorem own_url_kept_iff_namesWeb {tools : Tools} (lawful : tools.toAscii.Lawful)
    {request : Request} {own : Url} (parsed : Url.parse tools.toAscii request.url = .ok own)
    (web : own.scheme = "http" ∨ own.scheme = "https") :
    (NamesWeb request.url →
      (∀ text fault, build tools request ≠ .error (.failure (.invalidUrl text fault))) ∧
      ∀ outgoing, build tools request = .ok outgoing → outgoing.url = own) ∧
    (¬ NamesWeb request.url → ∀ outgoing, build tools request = .ok outgoing →
      outgoing.url.scheme = "https" ∧
      (outgoing.url.hostText = own.scheme ∨ outgoing.url.authority ≠ own.authority)) ∧
    (own.hostText ≠ "https" →
      (readUrl tools.toAscii request.url = .ok own ↔ NamesWeb request.url)) := by
  refine ⟨fun names => ⟨build_ne_invalidUrl (readUrl_of_namesWeb names parsed), ?_⟩, ?_, ?_⟩
  · intro outgoing built
    obtain ⟨-, url, headers, reads, -, rfl⟩ := build_eq_ok built
    exact Except.ok.inj (reads.symm.trans (readUrl_of_namesWeb names parsed))
  · intro unnamed outgoing built
    obtain ⟨-, url, headers, reads, -, rfl⟩ := build_eq_ok built
    exact displaced_of_not_namesWeb lawful unnamed parsed web reads
  · refine fun elsewhere => ⟨fun reads => ?_, fun names => readUrl_of_namesWeb names parsed⟩
    by_contra unnamed
    obtain ⟨secure, host | authority⟩ :=
      displaced_of_not_namesWeb lawful unnamed parsed web reads
    · exact elsewhere (host.trans secure)
    · exact authority rfl

/-- A URL with a port, a path and a query of its own goes where it is written to. -/
theorem own_url_kept_of_plain_text :
    let text := "GET \"http://a:81/b?c\""
    let tools := Tools.standard
    tools.toAscii.Lawful ∧ ∃ request own outgoing, Request.parse text = .ok request ∧
      Url.parse tools.toAscii request.url = .ok own ∧ own.render = "http://a:81/b?c" ∧
      build tools request = .ok outgoing ∧ outgoing.url = own := by
  intro text tools
  have written : (Request.parse text).toOption.map (·.url) = some "http://a:81/b?c" := by
    decide +kernel
  have places : (Url.parse tools.toAscii "http://a:81/b?c").toOption.map (fun url =>
      (url.scheme, url.render)) = some ("http", "http://a:81/b?c") := by
    decide +kernel
  have builds : (prepare tools text).toOption.map (·.method) = some "GET" := by
    decide +kernel
  obtain ⟨request, read, url⟩ := exists_ok written
  obtain ⟨own, parsed, place⟩ := exists_ok places
  obtain ⟨outgoing, built, -⟩ := exists_ok builds
  obtain ⟨scheme, render⟩ := Prod.mk.inj place
  rw [prepare, read] at built
  rw [← url] at parsed
  obtain ⟨kept, -, -⟩ := own_url_kept_iff_namesWeb Url.asciiOnly_lawful parsed (.inl scheme)
  have names : NamesWeb request.url := by
    rw [url]
    exact .inl (by decide)
  exact ⟨Url.asciiOnly_lawful, request, own, outgoing, read, parsed, render, built,
    (kept names).2 outgoing built⟩

/-- A scheme in capitals is taken for a host. -/
theorem scheme_in_capitals_is_a_host :
    let text := "GET \"HTTP://example.com\""
    let tools := Tools.standard
    ∃ request own outgoing, Request.parse text = .ok request ∧
      Url.parse tools.toAscii request.url = .ok own ∧ own.scheme = "http" ∧
      own.render = "http://example.com/" ∧ build tools request = .ok outgoing ∧
      outgoing.url.render = "https://http//example.com" := by
  intro text tools
  have written : (Request.parse text).toOption.map (·.url) = some "HTTP://example.com" := by
    decide +kernel
  have places : (Url.parse tools.toAscii "HTTP://example.com").toOption.map (fun url =>
      (url.scheme, url.render)) = some ("http", "http://example.com/") := by
    decide +kernel
  have builds : (prepare tools text).toOption.map (·.url.render) =
      some "https://http//example.com" := by
    decide +kernel
  obtain ⟨request, read, url⟩ := exists_ok written
  obtain ⟨own, parsed, place⟩ := exists_ok places
  obtain ⟨outgoing, built, goes⟩ := exists_ok builds
  obtain ⟨scheme, render⟩ := Prod.mk.inj place
  rw [prepare, read] at built
  rw [← url] at parsed
  exact ⟨request, own, outgoing, read, parsed, scheme, render, built, goes⟩

end HttpConsole.Exchange
