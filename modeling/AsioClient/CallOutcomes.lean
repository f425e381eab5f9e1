import AsioClient.CallEnds
import AsioClient.PrintableText

/-!
The body of a response, from the kernel to the caller, however the kernel delivers it and also when
it is cut off.
-/

set_option autoImplicit false

namespace AsioClient
open Imperative

/-- What a call comes to; `none` if it never comes back. -/
def valueOf {σ : Type} : EStateM.Result Halt σ Bytes → Option (Except Exn Bytes)
  | .ok v _ => some (.ok v)
  | .error (.threw e) _ => some (.error e)
  | .error _ _ => none

/-- The kernel connects, takes bytes of the request, delivers the response in whatever pieces
and after whatever delays, ends the stream and lets go of the socket. -/
structure Kernel.Serves (made : Bool) (k : Kernel) (response : Bytes) : Prop where
  connects : k.Connects made
  written : ∃ n pos, written k.sends = some (.accepts n pos)
  answers : k.wait.answers = true
  waited : k.wait.failure = none
  stream : k.stream = some response
  closed : k.closing = none

theorem Kernel.Serves.answer_eq {made : Bool} {k : Kernel} {response : Bytes}
    (hs : k.Serves made response) {mBufferSize : Int32} (hbuffer : 0 < mBufferSize.toInt) {n : Nat}
    (pos : 0 < n) : k.answer (.accepts n pos) mBufferSize = some (.ok response) := by
  have hneg : ¬ mBufferSize.toInt < 0 := by omega
  have hzero : mBufferSize ≠ 0 := by
    rintro rfl
    exact absurd hbuffer (by decide)
  unfold Kernel.answer
  rw [hs.answers, hs.waited]
  simp [WriteResult.failure, Kernel.received, hneg, hzero, hs.stream]

theorem Kernel.Serves.readBytes_eq {made : Bool} {s : Session} {k : Kernel} {response : Bytes}
    (hs : k.Serves made response) (hbuffer : 0 < s.mBufferSize.toInt) {request : Prepared}
    (hsocket : s.socket = .opened request) :
    outcome ((Session.readBytes k).run s) = .ok response := by
  obtain ⟨n, pos, hfirst⟩ := hs.written
  have hanswer := hs.answer_eq hbuffer pos
  have hmBufferSize : ∀ events e, ((s.log events).report e).mBufferSize = s.mBufferSize :=
    fun _ _ => rfl
  unfold Session.readBytes
  rw [run_reading_bind, hsocket]
  simp only [Session.exchange, hfirst, EStateM.run_bind, run_modify, run_reading, hmBufferSize,
    hanswer, settled, run_guarded_ok, Session.close, hs.closed, run_pure, outcome]

theorem Kernel.Serves.download_eq {s : Session} {k : Kernel} {response : Bytes}
    (hs : k.Serves s.reactor response) (hbuffer : 0 < s.mBufferSize.toInt) {url : Bytes}
    (hlen : url.length < 2 ^ 31) (port : Int32) (use : HttpContentData → Bytes) :
    outcome ((Session.download k url port use).run s) = .ok (use (extractData response)) := by
  obtain ⟨request, hp⟩ := prepare_short hlen
  obtain ⟨endpoint, rest, hends⟩ := List.exists_cons_of_ne_nil hs.connects.endpoints
  rw [prepareRequest_eq] at hp
  unfold Session.download
  cases hr : prepareRequest url with
  | error e =>
    rw [hr] at hp
    cases hp
  | ok r =>
    obtain ⟨request, name⟩ := r
    have hmaking : k.making (s.ask request name port).reactor = none := hs.connects.making
    rw [EStateM.run_bind, run_guarded_ok]
    dsimp only
    rw [EStateM.run_bind, run_modify]
    dsimp only
    rw [EStateM.run_bind, hends, Session.connectToFirst_run, hmaking, hs.connects.opening]
    simp only [hs.connects.answers, hs.connects.failure, ↓reduceIte, Option.isNone_none]
    rw [outcome_bind_pure]
    let t := ((s.ask request name port).renew.dial request endpoint).report none
    have hread : outcome ((Session.readBytes k).run t) = .ok response :=
      hs.readBytes_eq hbuffer rfl
    exact congrArg (Except.map _) hread

theorem valueOf_of_outcome {σ : Type} {r : EStateM.Result Halt σ Bytes} {v : Bytes}
    (h : outcome r = .ok v) : valueOf r = some (.ok v) := by
  cases r with
  | ok v' t =>
    obtain rfl := Except.ok.inj h
    rfl
  | error e t => cases h

theorem asio_download_serves (h : Host) {k : Kernel} {response : Bytes}
    (hs : k.Serves h.reactor response) (hbuffer : 0 < h.client.mBufferSize.toInt) {url : Bytes}
    (hlen : url.length < 2 ^ 31) (port : Int32) {fuel : Nat} (hfuel : response.length < fuel)
    (use : HttpContentData → Bytes) :
    valueOf ((asioLayer.download fuel url port use).run (h.start k)) =
      some (.ok (use (extractData response))) := by
  obtain ⟨s, hc⟩ := exists_carries h
  have hlong : ((h.start k).kernel.stream.getD []).length < fuel := by
    show (k.stream.getD []).length < fuel
    rw [hs.stream]
    exact hfuel
  have hsame := (same_download (hc.start k) hlong url port use).outcome_eq
  have hserves : k.Serves s.start.reactor response := by
    show k.Serves s.reactor response
    rw [← hc.reactor]
    exact hs
  have hpositive : 0 < s.start.mBufferSize.toInt := by
    show 0 < s.mBufferSize.toInt
    rw [← hc.mBufferSize]
    exact hbuffer
  exact valueOf_of_outcome (hsame.trans (hserves.download_eq hpositive hlen port use))

/-- Both downloads return the body behind the header, whatever the client did before, whatever
its buffer size, and however the kernel delivers the response. -/
theorem body_delivered (h : Host) {k : Kernel} {header body : Bytes}
    (hs : k.Serves h.reactor (header ++ headerEnd ++ body)) (hno : ¬ headerEnd <:+: header)
    (hend : ¬ crlf <:+ header) (hbuffer : 0 < h.client.mBufferSize.toInt) {url : Bytes}
    (hlen : url.length < 2 ^ 31) (port : Int32) {fuel : Nat}
    (hfuel : (header ++ headerEnd ++ body).length < fuel) :
    valueOf (h.exec ⟨.downloadByteData url port, k, fuel⟩) = some (.ok body) ∧
      valueOf (h.exec ⟨.downloadString url port, k, fuel⟩) =
        some (.ok (getStringResult body)) := by
  have hdata : extractData (header ++ headerEnd ++ body) = ⟨header, body⟩ :=
    extractData_response hno hend
  have hload := asio_download_serves h hs hbuffer hlen port hfuel
  rw [hdata] at hload
  exact ⟨hload fun result => result.Body, hload fun result => getStringResult result.Body⟩

theorem body_delivered_late :
    let k := Kernel.slow ⟨text "H\r\n\r\na", by decide⟩
    let client := { HttpClient.init with mErrorCode := ⟨111, .asioSystem⟩, mSocket := some 0 }
    let h : Host := ⟨client, [⟨some 5, .stream⟩], true, [5], k, []⟩
    valueOf (h.exec ⟨.downloadByteData (text "http://a/") 80, k, 9⟩) = some (.ok (text "a")) := by
  intro k client h
  have hconnects : k.Connects true := ⟨⟨by decide, rfl, rfl⟩, rfl, rfl⟩
  have hserves : k.Serves true (text "H" ++ headerEnd ++ text "a") :=
    ⟨hconnects, ⟨100, by decide, rfl⟩, rfl, rfl, rfl, rfl⟩
  have hlen : (text "http://a/").length < 2 ^ 31 := by decide
  have hfuel : (text "H" ++ headerEnd ++ text "a").length < 9 := by decide
  exact (body_delivered h hserves (by decide) (by decide) (by decide) hlen 80 hfuel).1

/-- The connection ends after `n` bytes, in whatever way. Before the blank line is complete, what
has come of the header is returned as if it were the body; behind it, what has come of the body
is, and its text is a prefix of the whole one. No error is raised in either case. -/
theorem cut_off_response (h : Host) {k : Kernel} {header body : Bytes} {n : Nat}
    (hs : k.Serves h.reactor ((header ++ headerEnd ++ body).take n)) (hno : ¬ headerEnd <:+: header)
    (hend : ¬ crlf <:+ header) (hbuffer : 0 < h.client.mBufferSize.toInt) {url : Bytes}
    (hlen : url.length < 2 ^ 31) (port : Int32) {fuel : Nat} (hfuel : n < fuel) :
    let start := header.length + headerEnd.length
    let arrived := if n < start then (header ++ headerEnd).take n else body.take (n - start)
    valueOf (h.exec ⟨.downloadByteData url port, k, fuel⟩) = some (.ok arrived) ∧
      valueOf (h.exec ⟨.downloadString url port, k, fuel⟩) =
        some (.ok (getStringResult arrived)) ∧
      (start ≤ n → getStringResult arrived <+: getStringResult body) := by
  intro start arrived
  have hlong : ((header ++ headerEnd ++ body).take n).length < fuel := by
    rw [List.length_take]
    omega
  have hbody : (extractData ((header ++ headerEnd ++ body).take n)).Body = arrived := by
    by_cases hn : n < start
    · rw [extractData_take_lt hno hend hn]
      simp only [arrived, hn, ↓reduceIte]
    · have hsplit : n = header.length + headerEnd.length + (n - start) := by omega
      have hdata := @extractData_take_ge header body hno hend (n - start)
      rw [← hsplit] at hdata
      rw [hdata]
      simp only [arrived, hn, ↓reduceIte]
  have hload := asio_download_serves h hs hbuffer hlen port hlong
  have hbytes := hload fun result => result.Body
  have hstring := hload fun result => getStringResult result.Body
  rw [hbody] at hbytes hstring
  refine ⟨hbytes, hstring, fun hstart => ?_⟩
  have hn : ¬ n < start := by omega
  have harrived : arrived = body.take (n - start) := by simp only [arrived, hn, ↓reduceIte]
  have hmore := getStringResult_prefix (body.take (n - start)) (body.drop (n - start))
  rw [List.take_append_drop] at hmore
  rwa [harrived]

theorem cut_off_response_early :
    let k := Kernel.slow ⟨text "HTT", by decide⟩
    valueOf ((Host.init k).exec ⟨.downloadByteData (text "http://a/") 80, k, 9⟩) =
      some (.ok (text "HTT")) := by
  intro k
  have hconnects : k.Connects false := ⟨⟨by decide, rfl, rfl⟩, rfl, rfl⟩
  have hserves : k.Serves false ((text "HTTP" ++ headerEnd ++ text "a").take 3) :=
    ⟨hconnects, ⟨100, by decide, rfl⟩, rfl, rfl, rfl, rfl⟩
  have hlen : (text "http://a/").length < 2 ^ 31 := by decide
  exact (cut_off_response (Host.init k) hserves (by decide) (by decide) (by decide) hlen 80
    (by decide)).1

end AsioClient
