import AsioClient.ConnectRun
import AsioClient.RequestLines

/-!
Which host a URL leads to and what is asked of it: the name handed to the resolver, the Host
line and the target, for every URL whose positions fit an `int`.
-/

set_option autoImplicit false

namespace AsioClient
open FirstOccurrence SplitPieces Imperative

theorem authorityAndPath_of_absent {url : Bytes} (h : ¬ searchmask <:+: url) :
    authorityAndPath url = url := by
  simp [authorityAndPath, cut_eq_none_iff.2 h]

theorem hostName_of_no_slash {url : Bytes} (h : slash ∉ authorityAndPath url) :
    hostName url = url := by
  simp [hostName, segments, h]

theorem hostName_of_only_slashes {url : Bytes} (h : ∀ c ∈ authorityAndPath url, c = slash) :
    hostName url = url := by
  unfold hostName segments
  split
  · rw [pieces_eq_nil_iff.2 h]
    rfl
  · rfl

theorem hostName_of_leading {url host path : Bytes} {k : Nat}
    (hs : slash ∈ authorityAndPath url)
    (hl : Leading slash (authorityAndPath url) k host path) : hostName url = host := by
  simp [hostName, segments, hs, hl.pieces_eq]

theorem hostName_eq_iff {url host : Bytes} (hne : url ≠ host) :
    hostName url = host ↔ slash ∈ authorityAndPath url ∧
      ∃ k path, Leading slash (authorityAndPath url) k host path := by
  constructor
  · intro hname
    have hs : slash ∈ authorityAndPath url := by
      by_contra hno
      exact hne ((hostName_of_no_slash hno).symm.trans hname)
    have hother : ∃ c ∈ authorityAndPath url, c ≠ slash := by
      by_contra hall
      push Not at hall
      exact hne ((hostName_of_only_slashes hall).symm.trans hname)
    obtain ⟨k, first, path, hl⟩ := exists_leading hother
    obtain rfl : first = host := (hostName_of_leading hs hl).symm.trans hname
    exact ⟨hs, k, path, hl⟩
  · intro ⟨hs, k, path, hl⟩
    exact hostName_of_leading hs hl

/-- The first occurrence of the leading piece is the leading piece itself. -/
theorem subrequest_of_leading {url host path : Bytes} {k : Nat}
    (hl : Leading slash url k host path) : subrequest host url = path := by
  unfold subrequest
  split
  · rename_i heq
    have hlen := congrArg List.length hl.split
    rw [← heq] at hlen
    simp only [List.length_append, List.length_replicate] at hlen
    exact (List.length_eq_zero_iff.1 (by omega)).symm
  · obtain ⟨c, host', rfl⟩ := List.exists_cons_of_ne_nil hl.nonempty
    have hc : c ∉ List.replicate k slash := by
      intro hmem
      exact hl.clean (by rw [List.eq_of_mem_replicate hmem]; exact List.mem_cons_self)
    have hcut : cut (c :: host') url = some (List.replicate k slash, path) := by
      rw [hl.split, List.append_assoc, cut_append_of_not_mem hc, cut_append_left hl.nonempty]
      simp
    simp [hcut]

theorem targetOf_head {subReq : Bytes} (h : subReq = [] ∨ ∃ t, subReq = slash :: t) :
    (targetOf subReq).head? = some slash := by
  rcases h with rfl | ⟨t, rfl⟩
  · rfl
  · rfl

theorem prepare_eq {url address : Bytes} (hc : checkURL url = .ok address)
    (hlen : address.length < 2 ^ 31) (type : RequestType) :
    prepare url type =
      .ok (requestText (requestTarget address) (hostName address), hostName address) := by
  simp [prepare, hc, createHeaderRequest_eq hlen, parseUrl_eq hlen, hostName]

theorem prepare_short {url : Bytes} (hlen : url.length < 2 ^ 31) :
    ∃ request, prepare url .GET = .ok request := by
  obtain ⟨address, hcheck, hsuf⟩ := checkURL_suffix url
  have hshort := Nat.lt_of_le_of_lt hsuf.length_le hlen
  exact ⟨_, prepare_eq hcheck hshort .GET⟩

def resolvedNames (trace : List Event) : List Bytes :=
  trace.filterMap fun e =>
    match e with
    | .resolve name _ => some name
    | _ => none

/-- The request of a call, as its end state and its trace show it. -/
structure Requested (header name : Bytes) (port : Int32) (before after : World) : Prop where
  header_eq : after.client.mHeader = header
  endpointUrl_eq : after.client.currentEndpointUrl = name
  port_eq : after.client.mPort = port
  trace_eq : ∃ rest, after.trace = before.trace ++ .resolve name port :: rest ∧
    resolvedNames rest = []

theorem Requested.dial {header name : Bytes} {port : Int32} {before after : World}
    (h : Requested header name port before after) (endpoint : Endpoint) :
    Requested header name port before (after.dial endpoint) := by
  obtain ⟨rest, htrace, hnames⟩ := h.trace_eq
  rw [World.dial_eq]
  split
  · exact ⟨h.header_eq, h.endpointUrl_eq, h.port_eq, rest, htrace, hnames⟩
  all_goals
    refine ⟨h.header_eq, h.endpointUrl_eq, h.port_eq, rest ++ [.opened, .connect endpoint],
      ?_, ?_⟩
    · simp [World.setErrorCode, World.log, World.withSocket, htrace]
    · simpa [resolvedNames] using hnames

theorem connectClient_requested {url header name : Bytes} {type : RequestType}
    (hp : prepare url type = .ok (header, name)) (port : Int32) (w : World) :
    Requested header name port w (endState ((connectClient url port type).run w)) := by
  have hasked : Requested header name port w
      ((w.setRequest header name port).log (.resolve name port)) :=
    ⟨rfl, rfl, rfl, [], rfl, rfl⟩
  rw [connectClient_run, hp]
  dsimp only
  split
  · exact hasked
  · exact hasked.dial _

theorem resolvedNames_append (t u : List Event) :
    resolvedNames (t ++ u) = resolvedNames t ++ resolvedNames u := by
  unfold resolvedNames
  exact List.filterMap_append

theorem Requested.resolvedNames_eq {header name : Bytes} {port : Int32} {before after : World}
    (h : Requested header name port before after) :
    resolvedNames after.trace = resolvedNames before.trace ++ [name] := by
  obtain ⟨rest, htrace, hnames⟩ := h.trace_eq
  have hlater : resolvedNames (.resolve name port :: rest) = name :: resolvedNames rest := rfl
  rw [htrace, resolvedNames_append, hlater, hnames]

theorem hostName_part {url : Bytes} (hlen : url.length < 2 ^ 31) : hostName url <:+: url :=
  parseUrl_headD (parseUrl_eq hlen)

theorem requestTarget_clean {url : Bytes} {c : UInt8} (hlen : url.length < 2 ^ 31)
    (hc : c ∉ requestDefaultIndexfile) (h : c ∉ url) : c ∉ requestTarget url := by
  intro hmem
  unfold requestTarget targetOf at hmem
  split at hmem
  · exact hc hmem
  · have hsuf : subrequest (hostName url) url <:+ url :=
      getSubrequest_suffix (getSubrequest_eq hlen)
    exact h (hsuf.mem hmem)

theorem not_crlf_of_not_mem {s : Bytes} (h : cr ∉ s) : ¬ crlf <:+: s :=
  fun hin => h (hin.mem List.mem_cons_self)

theorem targetOf_eq (subReq : Bytes) :
    targetOf subReq = if subReq = [] then text "/index.html" else subReq := by
  cases subReq with
  | nil => rfl
  | cons c subReq => rfl

theorem hostName_of_bare {url : Bytes} (hmask : ¬ searchmask <:+: url)
    (hbare : ¬ (slash ∈ url ∧ ∃ c ∈ url, c ≠ slash)) : hostName url = url := by
  have haddr := authorityAndPath_of_absent hmask
  by_cases hs : slash ∈ url
  · have hall : ∀ c ∈ url, c = slash := by
      intro c hc
      by_contra hne
      exact hbare ⟨hs, c, hc, hne⟩
    exact hostName_of_only_slashes (by rwa [haddr])
  · exact hostName_of_no_slash (by rwa [haddr])

theorem requestTarget_of_bare {url : Bytes} (h : hostName url = url) :
    requestTarget url = text "/index.html" := by
  have hsub : subrequest url url = [] := if_pos rfl
  rw [requestTarget, h, hsub]
  rfl

theorem requestTarget_of_leading {url host path : Bytes} {k : Nat}
    (hhost : hostName url = host) (hl : Leading slash url k host path) :
    requestTarget url = targetOf path := by
  rw [requestTarget, hhost, subrequest_of_leading hl]

theorem requestTarget_of_named {url : Bytes} (hmask : ¬ searchmask <:+: url)
    (h : slash ∈ url ∧ ∃ c ∈ url, c ≠ slash) :
    ∃ k path, Leading slash url k (hostName url) path ∧ requestTarget url = targetOf path := by
  obtain ⟨hs, hne⟩ := h
  obtain ⟨k, host, path, hl⟩ := exists_leading hne
  have haddr := authorityAndPath_of_absent hmask
  have hname : hostName url = host :=
    hostName_of_leading (by rwa [haddr]) (by rwa [haddr])
  exact ⟨k, path, hname ▸ hl, requestTarget_of_leading hname hl⟩

theorem requestTarget_head {url : Bytes} (hmask : ¬ searchmask <:+: url) :
    (requestTarget url).head? = some slash := by
  by_cases h : slash ∈ url ∧ ∃ c ∈ url, c ≠ slash
  · obtain ⟨k, path, hl, htarget⟩ := requestTarget_of_named hmask h
    rw [htarget]
    exact targetOf_head hl.stops
  · rw [requestTarget_of_bare (hostName_of_bare hmask h)]
    rfl

theorem request_reads_back {url : Bytes} (hlen : url.length < 2 ^ 31)
    (hmask : ¬ searchmask <:+: url) (hcr : cr ∉ url) (hsp : space ∉ url) :
    ∃ req line target host,
      createHeaderRequest url .GET = .ok req ∧
      crlfLines req = [line, text "Host: " ++ host, text "Connection: close", [], []] ∧
      line.splitOn space = [text "GET", target, text "HTTP/1.1"] ∧
      ((slash ∈ url ∧ ∃ c ∈ url, c ≠ slash) →
        ∃ k path, Leading slash url k host path ∧
          (∀ l x rest, Leading slash url l x rest → l = k ∧ x = host ∧ rest = path) ∧
          target = if path = [] then text "/index.html" else path) ∧
      (¬ (slash ∈ url ∧ ∃ c ∈ url, c ≠ slash) → host = url ∧ target = text "/index.html") ∧
      target.head? = some slash ∧
      ∀ full port type w, checkURL full = .ok url →
        let after := endState ((connectClient full port type).run w)
        after.client.currentEndpointUrl = host ∧ after.client.mHeader = req ∧
          resolvedNames after.trace = resolvedNames w.trace ++ [host] := by
  have htarget : cr ∉ requestTarget url := requestTarget_clean hlen (by decide) hcr
  have hspace : space ∉ requestTarget url := requestTarget_clean hlen (by decide) hsp
  have hhost : cr ∉ hostName url := fun hmem => hcr ((hostName_part hlen).mem hmem)
  refine ⟨_, requestLine (requestTarget url), requestTarget url, hostName url,
    createHeaderRequest_eq hlen .GET,
    crlfLines_of_clean (not_crlf_of_not_mem htarget) (not_crlf_of_not_mem hhost),
    splitOn_requestLine hspace, ?_, ?_, requestTarget_head hmask, ?_⟩
  · intro hboth
    obtain ⟨k, path, hl, htgt⟩ := requestTarget_of_named hmask hboth
    refine ⟨k, path, hl, ?_, by rw [htgt, targetOf_eq]⟩
    intro l x rest hother
    exact hother.unique hl
  · intro hbare
    have hname := hostName_of_bare hmask hbare
    exact ⟨hname, requestTarget_of_bare hname⟩
  · intro full port type w hcheck after
    have hreq := connectClient_requested (prepare_eq hcheck hlen type) port w
    exact ⟨hreq.endpointUrl_eq, hreq.header_eq, hreq.resolvedNames_eq⟩

theorem request_reads_back_repeated_label : ∃ req line target host,
    createHeaderRequest (text "//a/b/a") .GET = .ok req ∧
    crlfLines req = [line, text "Host: " ++ host, text "Connection: close", [], []] ∧
    line.splitOn space = [text "GET", target, text "HTTP/1.1"] ∧
    target.head? = some slash := by
  obtain ⟨req, line, target, host, hreq, hlines, hsplit, -, -, hhead, -⟩ :=
    @request_reads_back (text "//a/b/a") (by decide) (by decide) (by decide) (by decide)
  exact ⟨req, line, target, host, hreq, hlines, hsplit, hhead⟩

end AsioClient
