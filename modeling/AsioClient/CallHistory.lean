import AsioClient.SessionRefinement

/-!
What a download finds of the calls before it: the buffer size and whether there is a reactor.
-/

set_option autoImplicit false

namespace AsioClient
open Imperative

namespace Session

structure Alike (s t : Session) : Prop where
  mBufferSize : s.mBufferSize = t.mBufferSize
  reactor : s.reactor = t.reactor
  trace : s.trace = t.trace

structure Matched (s t : Session) : Prop extends Alike s t where
  socket : s.socket = t.socket

theorem Alike.log {s t : Session} (h : s.Alike t) (events : List Event) :
    (s.log events).Alike (t.log events) := { h with trace := congrArg (· ++ events) h.trace }

theorem twin_settled {α : Type} {R : Session → Session → Prop} (answer : Option (Except Exn α)) :
    Twin R (settled answer) (fun _ => R) R := by
  match answer with
  | some (.ok a) => exact .pure fun _ _ h => h
  | some (.error e) => exact .throw fun _ _ h => h
  | none => exact .throw fun _ _ h => h

theorem twin_readBytes (k : Kernel) : Twin Matched (readBytes k) (fun _ => Matched) Matched := by
  have hexchange : ∀ request, Twin Matched (exchange k request) (fun _ => Matched) Matched := by
    intro request
    unfold exchange
    cases written k.sends with
    | none => exact .throw fun _ _ h => h
    | some first =>
      refine .bind (S := fun _ => Matched) (.modify fun s t h => ?_) fun _ => ?_
      · exact { h.toAlike.log _ with socket := h.socket }
      · exact .bind_reading (fun s t h => h.mBufferSize) fun mBufferSize => twin_settled _
  have hclose : Twin Matched (close k) (fun _ => Matched) Matched := by
    unfold close
    refine .bind (S := fun _ => Matched) (.modify fun s t h => { h with socket := rfl }) fun _ => ?_
    cases k.closing with
    | none => exact .pure fun _ _ h => h
    | some e => exact .throw fun _ _ h => h
  unfold readBytes
  refine .bind_reading (fun s t h => h.socket) fun socket => ?_
  cases socket with
  | unset => exact .throw fun _ _ h => h
  | closed => exact .pure fun _ _ h => h
  | opened request =>
    refine .bind (hexchange request) fun _ => .bind hclose fun _ => .pure fun _ _ h => h

theorem twin_connectToFirst (k : Kernel) (request : Prepared) (endpoints : List Endpoint) :
    Twin Alike (connectToFirst k request endpoints)
      (fun connected s t => s.Alike t ∧ (connected = true → s.Matched t)) Alike := by
  -- the new socket takes the place of whatever the two had: behind it the sockets agree too
  have hnew : Twin Alike (newSocket k) (fun _ => Matched) Alike := by
    unfold newSocket
    refine .bind_reading (fun s t h => by rw [h.reactor]) fun failure => ?_
    cases failure with
    | some e => exact .throw fun _ _ h => h
    | none => exact .modify fun s t h => { h with reactor := rfl, socket := rfl }
  have hconnect : ∀ endpoint, Twin Matched (connect k request endpoint) (fun _ => Matched)
      Alike := by
    intro endpoint
    unfold connect
    cases k.opening with
    | some e =>
      refine .bind (S := fun _ => Matched) (.modify fun s t h => ?_) fun _ => .pure fun _ _ h => h
      exact { h with }
    | none =>
      refine .bind (S := fun _ => Matched) (.modify fun s t h => ?_) fun _ => ?_
      · exact { h.toAlike.log _ with socket := rfl }
      · refine .ite (fun _ => ?_) fun _ => .throw fun _ _ h => h.toAlike
        exact .bind (S := fun _ => Matched) (.modify fun s t h => { h with }) fun _ =>
          .pure fun _ _ h => h
  unfold connectToFirst
  cases endpoints with
  | nil => exact .pure fun _ _ h => ⟨h, fun hconnected => by cases hconnected⟩
  | cons endpoint rest =>
    refine .bind hnew fun _ => (hconnect endpoint).mono (fun _ _ h => h) (fun _ _ _ h => ?_)
      fun _ _ h => h
    exact ⟨h.toAlike, fun _ => h⟩

theorem twin_exec (k : Kernel) (call : Call) : Twin Alike (exec k call) (fun _ => Alike) Alike := by
  have hdownload : ∀ url port use, Twin Alike (download k url port use) (fun _ => Alike)
      Alike := by
    intro url port use
    unfold download
    refine .bind (S := fun _ => Alike) ?_ fun r => ?_
    · cases prepareRequest url with
      | ok r => exact .pure fun _ _ h => h
      | error e => exact .throw fun _ _ h => h
    · refine .bind (S := fun _ => Alike) (.modify fun s t h => ?_) fun _ => ?_
      · exact { h with trace := congrArg (· ++ [Event.resolve r.2 port]) h.trace }
      · refine .bind (twin_connectToFirst k r.1 k.endpoints) fun connected => ?_
        refine .ite (fun hconnected => ?_) fun _ => .pure fun _ _ h => h.1
        refine .bind ((twin_readBytes k).mono (fun _ _ h => h.2 hconnected) (fun _ _ _ h => h)
          fun _ _ h => h.toAlike) fun bytes => .pure fun _ _ h => h.toAlike
  cases call with
  | downloadString url port => exact hdownload url port fun result => getStringResult result.Body
  | downloadByteData url port => exact hdownload url port fun result => result.Body
  | setBufferSize size =>
    exact .bind (S := fun _ => Alike) (.modify fun s t h => { h with mBufferSize := rfl }) fun _ =>
      .pure fun _ _ h => h

end Session

/-- Two hosts between which no download can tell, and which have shown the same. -/
structure Host.Alike (h h' : Host) : Prop where
  mBufferSize : h.client.mBufferSize = h'.client.mBufferSize
  reactor : h.reactor = h'.reactor
  trace : h.trace = h'.trace

/-- What the calls return or throw and put on the network, up to one that never comes back. -/
def Host.values (fuel : Nat) :
    Host → List (Call × Kernel) → List (Except Halt Bytes × List Event) :=
  observedRun (fun h c => h.exec ⟨c.1, c.2, fuel⟩) Halt.ends Host.trace

theorem exec_alike {h h' : Host} (hbuffer : h.client.mBufferSize = h'.client.mBufferSize)
    (hreactor : h.reactor = h'.reactor) {k : Kernel} {fuel : Nat}
    (hfuel : (k.stream.getD []).length < fuel) (call : Call) :
    SameOutcome (fun _ => Host.Alike) Host.Alike (h.exec ⟨call, k, fuel⟩)
      (h'.exec ⟨call, k, fuel⟩) := by
  -- the sessions know nothing of the old sockets, which no download asks for
  obtain ⟨s, hc⟩ := exists_carries h
  obtain ⟨s', hc'⟩ := exists_carries h'
  have halike : s.start.Alike s'.start := by
    refine ⟨?_, ?_, rfl⟩
    · exact hc.mBufferSize.symm.trans (hbuffer.trans hc'.mBufferSize)
    · exact hc.reactor.symm.trans (hreactor.trans hc'.reactor)
  have hsame := same_exec (hc.start k) hfuel call
  have hsame' := same_exec (hc'.start k) hfuel call
  refine (Session.twin_exec k call _ _ halike).refined hsame hsame' fun hv hv' ht => ?_
  constructor
  · rw [hv.mBufferSize, ht.mBufferSize, hv'.mBufferSize]
  · rw [hv.reactor, ht.reactor, hv'.reactor]
  · rw [hv.trace, ht.trace, hv'.trace]

theorem exists_enough (calls : List (Call × Kernel)) :
    ∃ enough, ∀ c ∈ calls, (c.2.stream.getD []).length < enough := by
  induction calls with
  | nil => exact ⟨0, fun c hc => absurd hc List.not_mem_nil⟩
  | cons c rest ih =>
    obtain ⟨enough, hrest⟩ := ih
    refine ⟨max enough ((c.2.stream.getD []).length + 1), fun d hd => ?_⟩
    rcases List.mem_cons.1 hd with rfl | hd
    · omega
    · have hlt := hrest d hd
      omega

/-- Downloads and changes of the buffer size come to the same from any two states of the client,
its sockets and the process that have the buffer size and the reactor in common. -/
theorem calls_do_not_depend_on_history (calls : List (Call × Kernel)) :
    ∃ enough, ∀ fuel ≥ enough, ∀ h h' : Host, h.client.mBufferSize = h'.client.mBufferSize →
      h.reactor = h'.reactor → h.values fuel calls = h'.values fuel calls := by
  obtain ⟨enough, hlong⟩ := exists_enough calls
  refine ⟨enough, fun fuel hfuel h h' hbuffer hreactor => ?_⟩
  have hstep : ∀ (v v' : Host) (c d : Call × Kernel),
      v.client.mBufferSize = v'.client.mBufferSize ∧ v.reactor = v'.reactor →
      c = d ∧ (c.2.stream.getD []).length < fuel →
      SameOutcome (fun _ => Host.Alike) Host.Alike (v.exec ⟨c.1, c.2, fuel⟩)
        (v'.exec ⟨d.1, d.2, fuel⟩) := by
    rintro v v' c d ⟨hv, hv'⟩ ⟨rfl, hc⟩
    exact exec_alike hv hv' hc c.1
  have hcalls : List.Forall₂ (fun c d : Call × Kernel => c = d ∧ (c.2.stream.getD []).length < fuel)
      calls calls :=
    List.forall₂_same.2 fun c hc => ⟨rfl, Nat.lt_of_lt_of_le (hlong c hc) hfuel⟩
  exact observedRun_eq hstep (fun _ _ ha => ⟨ha.mBufferSize, ha.reactor⟩) (fun _ _ ha => ha.trace)
    hcalls ⟨hbuffer, hreactor⟩

/-- A new client, and one with a reactor, an old error and a socket that was never closed, after
both have made a first socket. -/
theorem calls_do_not_depend_on_history_leaked :
    let seg : Segment := ⟨text "H\r\n\r\na", by decide⟩
    let calls := [(Call.setBufferSize 3, Kernel.slow seg),
      (Call.downloadByteData (text "http://a/") 80, Kernel.slow seg)]
    let client := { HttpClient.init with mErrorCode := ⟨111, .asioSystem⟩, mSocket := some 0 }
    let h : Host := ⟨client, [⟨some 5, .stream⟩], true, [5], .slow seg, []⟩
    ∃ fuel, h.values fuel calls =
      { Host.init (.slow seg) with reactor := true }.values fuel calls := by
  intro seg calls client h
  obtain ⟨enough, hsame⟩ := calls_do_not_depend_on_history calls
  exact ⟨enough, hsame enough (Nat.le_refl _) _ _ rfl rfl⟩

end AsioClient
