import HttpConsole.Exchange.Standard
import HttpConsole.Proofs.Exchange.Building

/-! The host that a request asks for in place of that of its URL. HTTP/1.1 is the only protocol
offered exactly if the request carries a host of its own. It carries one for each spelling of the
name, and the first of them is the one that is asked for. -/

set_option autoImplicit false

namespace HttpConsole.Exchange

open HttpConsole.Text (encode)

/-- The headers of a request that name a host, in the order in which they were written first. Their
names are spelled in different cases. -/
def hostHeaders (request : Request) : List (String × String) :=
  Http.headersOf "host" request.headers.entries

theorem hostOverride?_eq (request : Request) :
    request.hostOverride? = (hostHeaders request).head?.map Prod.snd := by
  have small : "host".map Char.toLower = "host" := by decide +kernel
  rw [hostHeaders, Http.headersOf, List.head?_filter, Request.hostOverride?,
    Request.HeaderTable.findIgnoringCase?, small]
  rfl

section

variable {tools : Tools} {request : Request} {outgoing : Outgoing}

theorem values_host_of_build (built : build tools request = .ok outgoing) : outgoing.headers.values "host" =
      (hostHeaders request).map fun header => encode header.2 := by
  rw [headers_of_build built, Http.values_ofEntries, Http.headersOf_map, List.map_map]
  rfl

theorem has_host_iff_of_build (built : build tools request = .ok outgoing) :
    outgoing.headers.has "host" = true ↔ hostHeaders request ≠ [] := by
  rw [Http.HeaderMap.has, values_host_of_build built]
  simp

/-- A request is offered over HTTP/1.1 alone exactly if it carries a host. It carries the host that
is asked for, followed by those of the other spellings; so it carries no other host exactly if the
name is spelled in one way only. -/
theorem host_override_is_first_host (built : build tools request = .ok outgoing) :
    (outgoing.policy.http1Only = true ↔ outgoing.headers.has "host" = true) ∧
    outgoing.headers.values "host" = (hostHeaders request).map (fun header => encode header.2) ∧
    (outgoing.headers.values "host").head? = request.hostOverride?.map encode ∧
    ((∃ host, request.hostOverride? = some host ∧
        outgoing.headers.values "host" = [encode host]) ↔ (hostHeaders request).length = 1) := by
  have values := values_host_of_build built
  have override := hostOverride?_eq request
  refine ⟨?_, values, ?_, ?_⟩
  · have policy : outgoing.policy = .ofRequest request := by
      obtain ⟨-, url, headers, -, -, rfl⟩ := build_eq_ok built
      rfl
    rw [has_host_iff_of_build built, policy, Policy.ofRequest, override]
    simp
  · rw [values, override, List.head?_map, Option.map_map]
    rfl
  · rw [values, override, List.length_eq_one_iff]
    constructor
    · rintro ⟨host, -, single⟩
      obtain ⟨header, only, -⟩ := List.map_eq_singleton_iff.mp single
      exact ⟨header, only⟩
    · rintro ⟨header, only⟩
      rw [only]
      exact ⟨header.2, rfl, rfl⟩

end

private theorem exists_built (text : String) (headers : List (String × String))
    (written : (Request.parse text).toOption.map (·.headers.entries) = some headers)
    (fine : (prepare .standard text).toOption.map (fun _ => ()) = some ()) : ∃ request outgoing,
      Request.parse text = .ok request ∧ request.headers.entries = headers ∧
      build .standard request = .ok outgoing := by
  obtain ⟨request, read, entries⟩ := exists_ok written
  obtain ⟨outgoing, built, -⟩ := exists_ok fine
  rw [prepare, read] at built
  exact ⟨request, outgoing, read, entries, built⟩

/-- One spelling of the name, in whatever case, gives the one host that is asked for. -/
theorem host_override_of_one_spelling :
    let text := "GET x accept: y hOsT: \"a b\""
    ∃ request outgoing, Request.parse text = .ok request ∧
      build .standard request = .ok outgoing ∧
      outgoing.policy.http1Only = true ∧ request.hostOverride? = some "a b" ∧
      outgoing.headers.values "host" = [encode "a b"] := by
  intro text
  obtain ⟨request, outgoing, read, entries, built⟩ := exists_built text
    [("accept", "y"), ("hOsT", "a b")] (by decide +kernel) (by decide +kernel)
  have hosts : hostHeaders request = [("hOsT", "a b")] := by
    rw [hostHeaders, entries]
    decide +kernel
  obtain ⟨pinned, -, -, single⟩ := host_override_is_first_host built
  obtain ⟨host, override, values⟩ := single.mpr (congrArg List.length hosts)
  obtain rfl : host = "a b" := by
    rw [hostOverride?_eq, hosts] at override
    exact (Option.some.inj override).symm
  refine ⟨request, outgoing, read, built, pinned.mpr ?_, override, values⟩
  rw [Http.HeaderMap.has, values]
  rfl

/-- Two spellings of the name give two hosts. -/
theorem two_hosts_of_two_spellings :
    let text := "GET x host: a HOST: b"
    ∃ request outgoing, Request.parse text = .ok request ∧
      build .standard request = .ok outgoing ∧
      outgoing.headers.has "host" = true ∧ request.hostOverride? = some "a" ∧
      outgoing.headers.values "host" = [encode "a", encode "b"] := by
  intro text
  obtain ⟨request, outgoing, read, entries, built⟩ := exists_built text
    [("host", "a"), ("HOST", "b")] (by decide +kernel) (by decide +kernel)
  have hosts : hostHeaders request = [("host", "a"), ("HOST", "b")] := by
    rw [hostHeaders, entries]
    decide +kernel
  refine ⟨request, outgoing, read, built, ?_, ?_, ?_⟩
  · rw [has_host_iff_of_build built, hosts]
    exact List.cons_ne_nil _ _
  · rw [hostOverride?_eq, hosts]
    rfl
  · rw [values_host_of_build built, hosts]
    rfl

end HttpConsole.Exchange
