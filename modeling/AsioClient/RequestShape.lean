import AsioClient.UrlRouting

/-!
What a URL can do to the request. Target and host are taken from the URL as they are, so the
header is one well-formed request exactly when the two bring no line end and no blank.
-/

set_option autoImplicit false

namespace AsioClient
open FirstOccurrence Imperative

/-- The target and the host that `connectClient` takes from `url`. -/
def RequestParts (url target host : Bytes) : Prop :=
  ∃ address parsedUrl subReq,
    checkURL url = .ok address ∧ parseUrl address = .ok parsedUrl ∧
    host = parsedUrl.headD address ∧ getSubrequest host address = .ok subReq ∧
    target = targetOf subReq

theorem prepare_ok {url header name : Bytes} {type : RequestType}
    (h : prepare url type = .ok (header, name)) :
    ∃ target, RequestParts url target name ∧ header = requestText target name := by
  unfold prepare at h
  cases hc : checkURL url with
  | error e => simp [hc] at h
  | ok address =>
    cases hh : createHeaderRequest address type with
    | error e => simp [hc, hh] at h
    | ok request =>
      obtain ⟨parsedUrl, subReq, hp, hs, hrequest⟩ := createHeaderRequest_ok hh
      simp only [hc, hh, hp, except_ok_bind, except_pure, Except.ok.injEq, Prod.mk.injEq] at h
      obtain ⟨rfl, rfl⟩ := h
      exact ⟨targetOf subReq, ⟨address, parsedUrl, subReq, hc, hp, rfl, hs, rfl⟩, hrequest⟩

theorem prepare_header_ne_nil {url header name : Bytes} {type : RequestType}
    (h : prepare url type = .ok (header, name)) : header ≠ [] := by
  obtain ⟨target, -, hheader⟩ := prepare_ok h
  exact hheader ▸ requestText_ne_nil target name

theorem RequestParts.host_part {url target host : Bytes} (h : RequestParts url target host) :
    host <:+: url := by
  obtain ⟨address, parsedUrl, subReq, hc, hp, hhost, -, -⟩ := h
  obtain ⟨address', hc', hsuf⟩ := checkURL_suffix url
  obtain rfl : address = address' := Except.ok.inj (hc.symm.trans hc')
  have hin : host <:+: address := hhost ▸ parseUrl_headD hp
  exact hin.trans hsuf.isInfix

theorem RequestParts.target_part {url target host : Bytes} (h : RequestParts url target host) :
    target = requestDefaultIndexfile ∨ target <:+: url := by
  obtain ⟨address, parsedUrl, subReq, hc, -, -, hs, htarget⟩ := h
  obtain ⟨address', hc', hsuf⟩ := checkURL_suffix url
  obtain rfl : address = address' := Except.ok.inj (hc.symm.trans hc')
  unfold targetOf at htarget
  split at htarget
  · exact .inl htarget
  · have hin := (getSubrequest_suffix hs).isInfix
    exact .inr (htarget ▸ hin.trans hsuf.isInfix)

theorem prepare_of_trace {url : Bytes} {port : Int32} {type : RequestType} {w : World}
    {net : NetworkScript}
    (h : (endState ((connectClient url port type).run (w.start net))).trace ≠ []) :
    ∃ header name, prepare url type = .ok (header, name) := by
  cases hp : prepare url type with
  | error e =>
    rw [connectClient_run, hp] at h
    exact absurd rfl h
  | ok r => exact ⟨r.1, r.2, rfl⟩

theorem wellFormed_mHeader_iff (url : Bytes) (port : Int32) (w : World) (net : NetworkScript)
    (endpoint : Endpoint)
    (h : Event.connect endpoint ∈
      (endState ((connectClient url port .GET).run (w.start net))).trace) :
    let mHeader := (endState ((connectClient url port .GET).run (w.start net))).client.mHeader
    (∃ target host, RequestParts url target host ∧
      (WellFormedRequest mHeader ↔
        ¬ crlf <:+: target ∧ space ∉ target ∧ ¬ crlf <:+: host)) ∧
    (¬ crlf <:+: url → space ∉ url → WellFormedRequest mHeader) := by
  intro mHeader
  obtain ⟨header, name, hp⟩ := prepare_of_trace (List.ne_nil_of_mem h)
  obtain ⟨target, hparts, hheader⟩ := prepare_ok hp
  have hreq := connectClient_requested hp port (w.start net)
  have hm : mHeader = requestText target name := hreq.header_eq.trans hheader
  have hiff := wellFormed_requestText_iff target name
  rw [← hm] at hiff
  refine ⟨⟨target, name, hparts, hiff⟩, fun hline hblank => hiff.2 ⟨?_, ?_, ?_⟩⟩
  · intro hin
    rcases hparts.target_part with rfl | hsub
    · revert hin
      decide
    · exact hline (hin.trans hsub)
  · intro hin
    rcases hparts.target_part with rfl | hsub
    · revert hin
      decide
    · exact hblank (hsub.mem hin)
  · intro hin
    exact hline (hin.trans hparts.host_part)

theorem wellFormed_mHeader_plain :
    Event.connect loopback ∈ (endState ((connectClient (text "http://a/b") 80 .GET).run
      ((World.init (.serving [] .eof)).start (.serving [] .eof)))).trace ∧
    WellFormedRequest (endState ((connectClient (text "http://a/b") 80 .GET).run
      ((World.init (.serving [] .eof)).start (.serving [] .eof)))).client.mHeader := by
  have hconnect : Event.connect loopback ∈
      (endState ((connectClient (text "http://a/b") 80 .GET).run
        ((World.init (.serving [] .eof)).start (.serving [] .eof)))).trace := by
    decide +kernel
  have h := wellFormed_mHeader_iff (text "http://a/b") 80 _ _ loopback hconnect
  exact ⟨hconnect, h.2 (by decide) (by decide)⟩

/-- The rest of the URL becomes a header line, the end of the request and the start of a
second one. -/
theorem request_injected :
    let url := text "http://a/b HTTP/1.1\r\nHost: c\r\n\r\nGET /d"
    let after := endState ((connectClient url 80 .GET).run
      ((World.init (.serving [] .eof)).start (.serving [] .eof)))
    Event.connect loopback ∈ after.trace ∧ ¬ WellFormedRequest after.client.mHeader := by
  intro url after
  refine ⟨by decide +kernel, ?_⟩
  have hm : after.client.mHeader =
      requestText (text "/b HTTP/1.1\r\nHost: c\r\n\r\nGET /d") (text "a") := by
    decide +kernel
  rw [hm, wellFormed_requestText_iff]
  intro h
  exact h.1 (by decide)

end AsioClient
