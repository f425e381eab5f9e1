import AsioClient.RequestShape

/-!
Which host is contacted for a URL with a scheme. The three searches of the client run over the
whole URL, so what stands in the path can take the place of the host; a query right behind the
host becomes part of it; and a URL without a host is not refused but leads to some name all the
same.
-/

set_option autoImplicit false

namespace AsioClient
open FirstOccurrence SplitPieces Imperative

inductive Scheme where
  | http | https
  deriving DecidableEq

def Scheme.bytes : Scheme → Bytes
  | .http => httpScheme
  | .https => httpsScheme

structure PlainHost (h : Bytes) : Prop where
  nonempty : h ≠ []
  plain : ∀ c ∈ h, c ≠ slash ∧ c ≠ colon ∧ c ≠ '?'.toUInt8 ∧ c ≠ '#'.toUInt8 ∧
    c ≠ '@'.toUInt8 ∧ ¬ isSpace c

theorem PlainHost.no_slash {h : Bytes} (hh : PlainHost h) : slash ∉ h :=
  fun hmem => (hh.plain slash hmem).1 rfl

theorem PlainHost.no_colon {h : Bytes} (hh : PlainHost h) : colon ∉ h :=
  fun hmem => (hh.plain colon hmem).2.1 rfl

def hostUrl (scheme : Scheme) (h r : Bytes) : Bytes := scheme.bytes ++ (h ++ slash :: r)

/-- The path leaves the host alone: it holds no `://`, or the first segment behind its first
`://` is the host again. In the second case an `http://` URL whose path holds `https://` loses
a byte of its host. -/
def KeepsHost (scheme : Scheme) (h r : Bytes) : Prop :=
  ¬ searchmask <:+: r ∨
    ∃ p q k t, cut searchmask r = some (p, q) ∧ slash ∈ q ∧ Leading slash q k h t ∧
      ¬ (scheme = .http ∧ httpsScheme <:+: r)

/-- The second scheme is longer than the one that is there. -/
def addressOf (scheme : Scheme) (h r : Bytes) : Bytes :=
  if scheme = .http ∧ httpsScheme <:+: r then h.tail ++ slash :: r else h ++ slash :: r

theorem https_infix_address {h r : Bytes} (hh : PlainHost h) :
    httpsScheme <:+: h ++ slash :: r ↔ httpsScheme <:+: r := by
  have hshape : httpsScheme = text "https" ++ colon :: [slash, slash] := rfl
  rw [hshape]
  exact infix_append_cons_iff hh.no_colon (by decide) (by decide)

theorem checkURL_behind {scheme : Scheme} {rest : Bytes}
    (h : scheme = .http → ¬ httpsScheme <:+: rest) :
    checkURL (scheme.bytes ++ rest) = .ok rest := by
  have hfront : find (scheme.bytes ++ rest) scheme.bytes ≠ npos := by
    have hne : scheme.bytes ≠ [] := by cases scheme <;> decide
    rw [find_of_cut (cut_append_left hne)]
    decide
  have hdrop : substrCount (scheme.bytes ++ rest) scheme.bytes.length
      ((scheme.bytes ++ rest).length - scheme.bytes.length) = .ok rest := by
    rw [substrCount_drop (List.prefix_append _ _).length_le, List.drop_left]
  cases scheme with
  | https => exact (if_pos hfront).trans hdrop
  | http =>
    have habs : find (Scheme.http.bytes ++ rest) httpsScheme = npos :=
      find_of_absent fun hin => h rfl ((https_infix_http_append rest).1 hin)
    rw [checkURL, if_neg (not_not.2 habs)]
    exact (if_pos hfront).trans hdrop

theorem checkURL_hostUrl {scheme : Scheme} {h r : Bytes} (hh : PlainHost h)
    (hlen : (hostUrl scheme h r).length < 2 ^ 31) :
    checkURL (hostUrl scheme h r) = .ok (addressOf scheme h r) := by
  unfold addressOf
  split
  · rename_i hcut
    obtain ⟨rfl, hs⟩ := hcut
    have hin : httpsScheme <:+: hostUrl .http h r :=
      (https_infix_http_append _).2 ((https_infix_address hh).2 hs)
    obtain ⟨c, h', rfl⟩ := List.exists_cons_of_ne_nil hh.nonempty
    rw [checkURL_eq (le_maxSize_of_lt hlen), if_pos hin]
    rfl
  · rename_i hno
    exact checkURL_behind fun hscheme hin => hno ⟨hscheme, (https_infix_address hh).1 hin⟩

theorem authorityAndPath_of_cut {p r before q : Bytes} (hp : colon ∉ p)
    (h : cut searchmask r = some (before, q)) : authorityAndPath (p ++ r) = q := by
  have hcut : cut searchmask (p ++ r) = (cut searchmask r).map fun s => (p ++ s.1, s.2) :=
    cut_append_of_not_mem hp
  rw [h] at hcut
  simp [authorityAndPath, hcut]

theorem searchmask_append_iff {p r : Bytes} (hp : colon ∉ p) :
    searchmask <:+: p ++ r ↔ searchmask <:+: r :=
  cons_infix_append_iff hp

theorem leading_address {h : Bytes} (hh : PlainHost h) (r : Bytes) :
    Leading slash (h ++ slash :: r) 0 h (slash :: r) :=
  ⟨rfl, hh.nonempty, hh.no_slash, .inr ⟨r, rfl⟩⟩

theorem hostName_address_iff {h r : Bytes} (hh : PlainHost h) :
    hostName (h ++ slash :: r) = h ↔
      ¬ searchmask <:+: r ∨ ∃ p q k t, cut searchmask r = some (p, q) ∧ slash ∈ q ∧
        Leading slash q k h t := by
  have hcolon : colon ∉ h ++ [slash] := by
    have hslash : colon ≠ slash := by decide
    simp [hh.no_colon, hslash]
  have hshape : h ++ slash :: r = h ++ [slash] ++ r := by simp
  have hlonger : h ++ slash :: r ≠ h := by simp
  rw [hostName_eq_iff hlonger]
  cases hc : cut searchmask r with
  | none =>
    have habs := cut_eq_none_iff.1 hc
    have hmask : ¬ searchmask <:+: h ++ slash :: r := by
      rwa [hshape, searchmask_append_iff hcolon]
    rw [authorityAndPath_of_absent hmask]
    exact iff_of_true ⟨by simp, 0, slash :: r, leading_address hh r⟩ (.inl habs)
  | some s =>
    obtain ⟨p, q⟩ := s
    have hin : searchmask <:+: r := ⟨p, q, (cut_eq_some_iff.1 hc).1.symm⟩
    rw [hshape, authorityAndPath_of_cut hcolon hc]
    constructor
    · intro ⟨hs, k, t, hl⟩
      exact .inr ⟨p, q, k, t, rfl, hs, hl⟩
    · intro hkeeps
      rcases hkeeps with habs | ⟨p', q', k, t, hcut, hs, hl⟩
      · exact absurd hin habs
      · obtain ⟨rfl, rfl⟩ : p = p' ∧ q = q' := by simpa using hcut
        exact ⟨hs, k, t, hl⟩

theorem requestTarget_of_short {h r : Bytes} (hs : httpsScheme <:+: r)
    (hname : hostName (h.tail ++ slash :: r) = h) (hne : h ≠ []) :
    requestTarget (h.tail ++ slash :: r) ≠ slash :: r := by
  intro htarget
  rw [requestTarget, hname, targetOf_eq] at htarget
  split at htarget
  · have hr : text "index.html" = r := (List.cons.inj htarget).2
    rw [← hr] at hs
    revert hs
    decide
  · rename_i hsub
    unfold subrequest at htarget hsub
    split at hsub
    · exact hsub rfl
    · cases hc : cut h (h.tail ++ slash :: r) with
      | none => simp [hc] at hsub
      | some s =>
        obtain ⟨p, rest⟩ := s
        have hlen := congrArg List.length (cut_eq_some_iff.1 hc).1
        rw [if_neg ‹_›, hc] at htarget
        have hpos := List.length_pos_iff.2 hne
        have hrest := congrArg List.length htarget
        simp only [List.length_append, List.length_tail, List.length_cons] at hlen hrest
        omega

theorem connectClient_reads {url address : Bytes} (hc : checkURL url = .ok address)
    (hlen : address.length < 2 ^ 31) (hcr : cr ∉ address) (hsp : space ∉ address)
    (port : Int32) (w : World) (net : NetworkScript) :
    let after := endState ((connectClient url port .GET).run (w.start net))
    resolvedNames after.trace = [hostName address] ∧
      readRequest after.client.mHeader =
        some ⟨text "GET", requestTarget address, text "HTTP/1.1", hostName address⟩ := by
  intro after
  have hreq := connectClient_requested (prepare_eq hc hlen .GET) port (w.start net)
  have hhost : cr ∉ hostName address := fun hmem => hcr ((hostName_part hlen).mem hmem)
  have htarget : cr ∉ requestTarget address := requestTarget_clean hlen (by decide) hcr
  refine ⟨hreq.resolvedNames_eq, ?_⟩
  rw [hreq.header_eq]
  exact readRequest_requestText (not_crlf_of_not_mem htarget)
    (requestTarget_clean hlen (by decide) hsp) (not_crlf_of_not_mem hhost)

/-- The host the URL names is resolved and the request carries it and the whole path. -/
def ContactsHost (scheme : Scheme) (h r : Bytes) (port : Int32) (w : World)
    (net : NetworkScript) : Prop :=
  let after := endState ((connectClient (hostUrl scheme h r) port .GET).run (w.start net))
  resolvedNames after.trace = [h] ∧
    readRequest after.client.mHeader = some ⟨text "GET", slash :: r, text "HTTP/1.1", h⟩

theorem mem_addressOf {scheme : Scheme} {h r : Bytes} {c : UInt8}
    (hc : c ∈ addressOf scheme h r) : c ∈ h ∨ c = slash ∨ c ∈ r := by
  unfold addressOf at hc
  split at hc
  · rcases List.mem_append.1 hc with hh | hr
    · exact .inl (List.mem_of_mem_tail hh)
    · exact .inr (List.mem_cons.1 hr)
  · rcases List.mem_append.1 hc with hh | hr
    · exact .inl hh
    · exact .inr (List.mem_cons.1 hr)

theorem PlainHost.not_mem_addressOf {scheme : Scheme} {h r : Bytes} {c : UInt8}
    (hh : PlainHost h) (hr : ∀ c ∈ r, ¬ isSpace c) (hc : isSpace c) (hne : c ≠ slash) :
    c ∉ addressOf scheme h r := by
  intro hmem
  rcases mem_addressOf hmem with hmem | heq | hmem
  · exact (hh.plain c hmem).2.2.2.2.2 hc
  · exact hne heq
  · exact hr c hmem hc

theorem length_addressOf_le (scheme : Scheme) (h r : Bytes) :
    (addressOf scheme h r).length ≤ (hostUrl scheme h r).length := by
  unfold addressOf hostUrl
  split
  · simp only [List.length_append, List.length_cons, List.length_tail]
    omega
  · simp only [List.length_append, List.length_cons]
    omega

theorem contactsHost_iff_address {scheme : Scheme} {h r : Bytes} (hh : PlainHost h)
    (hr : ∀ c ∈ r, ¬ isSpace c) (hlen : (hostUrl scheme h r).length < 2 ^ 31)
    (port : Int32) (w : World) (net : NetworkScript) :
    ContactsHost scheme h r port w net ↔
      hostName (addressOf scheme h r) = h ∧
        requestTarget (addressOf scheme h r) = slash :: r := by
  have hshort := Nat.lt_of_le_of_lt (length_addressOf_le scheme h r) hlen
  have hcr : cr ∉ addressOf scheme h r := hh.not_mem_addressOf hr (by decide) (by decide)
  have hsp : space ∉ addressOf scheme h r := hh.not_mem_addressOf hr (by decide) (by decide)
  obtain ⟨hname, hread⟩ :=
    connectClient_reads (checkURL_hostUrl hh hlen) hshort hcr hsp port w net
  unfold ContactsHost
  simp only [hname, hread, List.cons.injEq, and_true, Option.some.injEq, Request.mk.injEq,
    true_and]
  exact ⟨fun hboth => ⟨hboth.1, hboth.2.1⟩, fun hboth => ⟨hboth.1, hboth.2, hboth.1⟩⟩

theorem contactsHost_iff {scheme : Scheme} {h r : Bytes} (hh : PlainHost h)
    (hr : ∀ c ∈ r, ¬ isSpace c) (hlen : (hostUrl scheme h r).length < 2 ^ 31)
    (port : Int32) (w : World) (net : NetworkScript) :
    ContactsHost scheme h r port w net ↔ KeepsHost scheme h r := by
  rw [contactsHost_iff_address hh hr hlen, addressOf]
  by_cases hcut : scheme = .http ∧ httpsScheme <:+: r
  · rw [if_pos hcut]
    have hmask : searchmask <:+: r := by
      have hin : searchmask <:+: httpsScheme := by decide
      exact hin.trans hcut.2
    refine iff_of_false ?_ ?_
    · intro ⟨hhost, htarget⟩
      exact requestTarget_of_short hcut.2 hhost hh.nonempty htarget
    · intro hkeeps
      rcases hkeeps with habs | ⟨p, q, k, t, -, -, -, hno⟩
      · exact habs hmask
      · exact hno hcut
  · rw [if_neg hcut]
    have htarget : hostName (h ++ slash :: r) = h →
        requestTarget (h ++ slash :: r) = slash :: r :=
      fun hhost => requestTarget_of_leading hhost (leading_address hh r)
    rw [and_iff_left_of_imp htarget, hostName_address_iff hh]
    simp only [KeepsHost, hcut, not_false_eq_true, and_true]

theorem contactsHost_https :
    ContactsHost .https (text "a.org") (text "b?c#d") 443 (World.init (.serving [] .eof))
      (.serving [] .eof) := by
  have hh : PlainHost (text "a.org") := ⟨by decide, by decide +kernel⟩
  have hiff := @contactsHost_iff .https (text "a.org") (text "b?c#d") hh (by decide +kernel)
    (by decide) 443 (World.init (.serving [] .eof)) (.serving [] .eof)
  exact hiff.2 (.inl (by decide))

/-- A URL in the query: its host is resolved, and named in the request, instead of `a`. -/
theorem query_host_contacted :
    let r := text "?u=http://b/"
    PlainHost (text "a") ∧ (∀ c ∈ r, ¬ isSpace c) ∧
      (hostUrl .http (text "a") r).length < 2 ^ 31 ∧
      resolvedNames (endState ((connectClient (hostUrl .http (text "a") r) 80 .GET).run
        ((World.init (.serving [] .eof)).start (.serving [] .eof)))).trace = [text "b"] ∧
      ¬ ContactsHost .http (text "a") r 80 (World.init (.serving [] .eof))
        (.serving [] .eof) := by
  intro r
  have hnames : resolvedNames (endState ((connectClient (hostUrl .http (text "a") r) 80 .GET).run
      ((World.init (.serving [] .eof)).start (.serving [] .eof)))).trace = [text "b"] := by
    decide +kernel
  refine ⟨⟨by decide, by decide +kernel⟩, by decide +kernel, by decide, hnames, ?_⟩
  intro hcontacts
  have hsame := hnames.symm.trans hcontacts.1
  revert hsame
  decide

def delimitedUrl (scheme : Scheme) (h : Bytes) (d : UInt8) (r : Bytes) : Bytes :=
  scheme.bytes ++ (h ++ d :: r)

/-- The host alone is resolved and named in the request, and the target starts with a slash. -/
def QueryApart (scheme : Scheme) (h : Bytes) (d : UInt8) (r : Bytes) (port : Int32) (w : World)
    (net : NetworkScript) : Prop :=
  let after := endState ((connectClient (delimitedUrl scheme h d r) port .GET).run (w.start net))
  resolvedNames after.trace = [h] ∧
    ∃ request, readRequest after.client.mHeader = some request ∧ request.host = h ∧
      request.target.head? = some slash

theorem headD_parseUrl_delimited {h r : Bytes} {d : UInt8} {parsedUrl : List Bytes}
    (hs : slash ∉ h ++ [d]) (hmask : ¬ searchmask <:+: h ++ d :: r)
    (hp : parseUrl (h ++ d :: r) = .ok parsedUrl) :
    h ++ [d] <+: parsedUrl.headD (h ++ d :: r) := by
  have hskip : skipScheme (h ++ d :: r) = .ok (h ++ d :: r) :=
    skipScheme_of_absent (cut_eq_none_iff.2 hmask)
  have hwhole : h ++ [d] <+: h ++ d :: r := ⟨r, by simp⟩
  by_cases hr : slash ∈ r
  · obtain ⟨a, b, hsplit, ha⟩ := List.eq_append_cons_of_mem hr
    have hshape : h ++ d :: r = (h ++ [d] ++ a) ++ slash :: b := by simp [hsplit]
    have hclean : slash ∉ h ++ [d] ++ a := by
      intro hmem
      rcases List.mem_append.1 hmem with hhost | hrest
      · exact hs hhost
      · exact ha hrest
    rw [parseUrl_of_skip_slash (hskip.trans (congrArg _ hshape)) (by simp) hclean,
      Except.ok.injEq] at hp
    subst hp
    split
    · exact List.prefix_append _ _
    · exact hwhole
  · have hno : slash ∉ h ++ d :: r := by
      intro hmem
      rw [List.append_cons] at hmem
      rcases List.mem_append.1 hmem with hhost | hrest
      · exact hs hhost
      · exact hr hrest
    rw [parseUrl_of_skip_no_slash hskip hno, Except.ok.injEq] at hp
    subst hp
    exact hwhole

theorem query_taken_into_host {scheme : Scheme} {h r : Bytes} {d : UInt8} (hh : PlainHost h)
    (hd : d = '?'.toUInt8 ∨ d = '#'.toUInt8) (hr : ¬ searchmask <:+: r) (port : Int32) (w : World)
    (net : NetworkScript) : ¬ QueryApart scheme h d r port w net := by
  have hslash : slash ∉ h ++ [d] := by
    have hne : slash ≠ d := by rcases hd with rfl | rfl <;> decide
    simp [hh.no_slash, hne]
  have hmask : ¬ searchmask <:+: h ++ d :: r := by
    have hne : colon ≠ d := by rcases hd with rfl | rfl <;> decide
    rwa [List.append_cons, searchmask_append_iff (by simp [hh.no_colon, hne])]
  have hcheck : checkURL (delimitedUrl scheme h d r) = .ok (h ++ d :: r) := by
    have hin : searchmask <:+: httpsScheme := by decide
    exact checkURL_behind fun _ hhttps => hmask (hin.trans hhttps)
  intro ⟨hnames, _⟩
  have hne : (endState ((connectClient (delimitedUrl scheme h d r) port .GET).run
      (w.start net))).trace ≠ [] := by
    intro hnil
    rw [hnil] at hnames
    cases hnames
  obtain ⟨header, name, hp⟩ := prepare_of_trace hne
  obtain ⟨target, ⟨address, parsedUrl, -, hc, hparse, hname, -, -⟩, -⟩ := prepare_ok hp
  obtain rfl : h ++ d :: r = address := Except.ok.inj (hcheck.symm.trans hc)
  have hlonger := (headD_parseUrl_delimited hslash hmask hparse).length_le
  have hasked := (connectClient_requested hp port (w.start net)).resolvedNames_eq
  have hsame : name = h := (List.cons.inj (hasked.symm.trans hnames)).1
  rw [← hname, hsame, List.length_append, List.length_singleton] at hlonger
  omega

theorem query_taken_into_host_slash :
    ¬ QueryApart .https (text "a") '#'.toUInt8 (text "b/c") 443 (World.init (.serving [] .eof))
      (.serving [] .eof) := by
  have hh : PlainHost (text "a") := ⟨by decide, by decide +kernel⟩
  exact query_taken_into_host hh (.inr rfl) (by decide) 443 _ _

theorem query_resolved :
    let asked := fun url => resolvedNames (endState ((connectClient url 80 .GET).run
      ((World.init (.serving [] .eof)).start (.serving [] .eof)))).trace
    PlainHost (text "a") ∧ asked (text "http://a?x") = [text "a?x"] ∧
      asked (text "http://a?x/y") = [text "a?x"] ∧
      ¬ QueryApart .http (text "a") '?'.toUInt8 (text "x") 80 (World.init (.serving [] .eof))
        (.serving [] .eof) := by
  intro asked
  have hbare : asked (text "http://a?x") = [text "a?x"] := by decide +kernel
  refine ⟨⟨by decide, by decide +kernel⟩, hbare, by decide +kernel, ?_⟩
  intro hapart
  have hsame := hbare.symm.trans hapart.1
  revert hsame
  decide

def NamesHttpHost (url : Bytes) : Prop :=
  ∃ (scheme : Scheme) (c : UInt8) (rest : Bytes), url = scheme.bytes ++ c :: rest ∧ c ≠ slash

/-- The call comes back with `false`, with no name resolved and no socket opened. -/
def Rejected (url : Bytes) (port : Int32) (w : World) (net : NetworkScript) : Prop :=
  ∃ after, (connectClient url port .GET).run (w.start net) = .ok false after ∧
    resolvedNames after.trace = [] ∧ Event.opened ∉ after.trace

theorem not_rejected (url : Bytes) (port : Int32) (w : World) (net : NetworkScript) :
    ¬ Rejected url port w net ∧
      (¬ httpScheme <:+: url → ¬ httpsScheme <:+: url →
        resolvedNames (endState ((connectClient url port .GET).run (w.start net))).trace =
          [[]]) := by
  constructor
  · intro ⟨after, hrun, hnames, _⟩
    cases hp : prepare url .GET with
    | error e =>
      rw [connectClient_run, hp] at hrun
      cases hrun
    | ok r =>
      obtain ⟨header, name⟩ := r
      have hreq := connectClient_requested hp port (w.start net)
      have hasked := hreq.resolvedNames_eq
      rw [hrun, endState_ok, hnames] at hasked
      simp at hasked
  · intro hhttp hhttps
    have hcheck := checkURL_of_absent hhttps hhttp
    have hreq := connectClient_requested (prepare_eq hcheck (by decide) .GET) port (w.start net)
    exact hreq.resolvedNames_eq

theorem schemeless_resolved :
    let url := text "example.com"
    let run := (connectClient url 80 .GET).run
      ((World.init (.serving [] .eof)).start (.serving [] .eof))
    ¬ NamesHttpHost url ∧ ¬ Rejected url 80 (World.init (.serving [] .eof)) (.serving [] .eof) ∧
      resolvedNames (endState run).trace = [[]] ∧
      Event.connect loopback ∈ (endState run).trace := by
  intro url run
  have hrun : run = .ok true (endState run) := rfl
  refine ⟨?_, ?_, by decide +kernel, by decide +kernel⟩
  · intro ⟨scheme, c, rest, hurl, _⟩
    have hhead := congrArg List.head? hurl
    cases scheme with
    | http => cases hhead
    | https => cases hhead
  · intro ⟨after, hfalse, _⟩
    cases hrun.symm.trans hfalse

end AsioClient
