import AsioClient.AsioOperations
import AsioClient.AsioRuns

/-!
The client over asio refines its session: operation by operation, call by call and run by run.
-/

set_option autoImplicit false

namespace AsioClient
open Imperative

def SessionSocket.Is (h : Host) : SessionSocket → Prop
  | .unset => h.impl? = none
  | .closed => h.impl? = some .construct
  | .opened request => h.client.mHeader = request.1 ∧
      ∃ d ∈ h.descriptors, h.impl? = some ⟨some d, .stream⟩

/-- The session tells the state of the client. Unless it is `known`, the socket that was there
before the call may be any. -/
structure Carries (known : Prop) (h : Host) (s : Session) : Prop where
  mBufferSize : h.client.mBufferSize = s.mBufferSize
  error : Reports s.error h.client.mErrorCode
  reactor : h.reactor = s.reactor
  held : h.descriptors.length = s.held
  trace : h.trace = s.trace
  socket : known → s.socket.Is h

theorem Carries.weaken {known : Prop} {h : Host} {s : Session} (hc : Carries True h s) :
    Carries known h s := { hc with socket := fun _ => hc.socket trivial }

theorem exists_carries (h : Host) : ∃ s, Carries False h s := by
  have herror : ∃ error, Reports error h.client.mErrorCode := by
    cases hset : h.client.mErrorCode.isSet with
    | true => exact ⟨some ⟨_, hset⟩, rfl⟩
    | false => exact ⟨none, hset⟩
  obtain ⟨error, hreport⟩ := herror
  exact ⟨⟨_, error, .unset, _, _, _⟩, rfl, hreport, rfl, rfl, rfl, False.elim⟩

theorem Host.impl?_of_ledger {h h' : Host} (heq : h'.ledger = h.ledger) :
    h'.impl? = h.impl? := by
  obtain ⟨hsocket, hrest⟩ := Prod.mk.inj heq
  have himpls : h'.impls = h.impls := congrArg Prod.fst hrest
  unfold Host.impl?
  rw [hsocket, himpls]

theorem SessionSocket.Is.of_ledger {socket : SessionSocket} {h h' : Host} (hs : socket.Is h)
    (hledger : h'.ledger = h.ledger) (hheader : h'.client.mHeader = h.client.mHeader) :
    socket.Is h' := by
  have himpl := Host.impl?_of_ledger hledger
  have hdescriptors : h'.descriptors = h.descriptors := congrArg (·.2.2) hledger
  unfold SessionSocket.Is at hs ⊢
  rwa [himpl, hdescriptors, hheader]

theorem same_settled {α σ τ : Type} {R : σ → τ → Prop} {s : σ} {t : τ} (h : R s t)
    (answer : Option (Except Exn α)) :
    SameOutcome (fun _ => R) R ((settled answer).run s) ((settled answer).run t) := by
  match answer with
  | some (.ok a) => exact .returned h
  | some (.error e) => exact .stopped h
  | none => exact .stopped h

section Reading

variable {h : Host} {s : Session} {request : Prepared}

theorem same_exchange (hc : Carries True h s) (hs : s.socket = .opened request) {fuel : Nat}
    (hfuel : (h.kernel.stream.getD []).length < fuel) :
    SameOutcome
      (fun _ h' s' => Carries True h' s' ∧ s'.socket = .opened request ∧
        h'.kernel.closing = h.kernel.closing)
      (Carries True) ((asioLayer.exchange fuel).run h)
      ((Session.exchange h.kernel request).run s) := by
  have hsocket := hc.socket trivial
  rw [hs] at hsocket
  obtain ⟨hheader, d, hd, himpl⟩ := hsocket
  have hsome : h.client.mHeader ≠ [] := hheader ▸ request.2
  have hrun := asio_exchange_run himpl hsome hfuel
  unfold Session.exchange
  cases hfirst : written h.kernel.sends with
  | none =>
    rw [hfirst] at hrun
    rw [hrun]
    exact .stopped hc
  | some first =>
    rw [hfirst] at hrun
    obtain ⟨ec, sends, recvs, hreport, hrun⟩ := hrun
    simp only [EStateM.run_bind, run_modify, run_reading]
    rw [hrun, hc.mBufferSize, hheader]
    have hafter : Carries True
        (((h.wrote ec sends (first.sent request.1)).log .waitRead).received ec recvs)
        ((s.log (first.sent request.1 ++ [.waitRead])).report first.failure) := by
      refine ⟨hc.mBufferSize, hreport, hc.reactor, hc.held, ?_, fun _ => ?_⟩
      · show (h.trace ++ first.sent request.1) ++ [Event.waitRead] = _
        rw [hc.trace, List.append_assoc]
        rfl
      · exact (hc.socket trivial).of_ledger rfl rfl
    refine (same_settled (R := fun h' s' => Carries True h' s' ∧ s'.socket = .opened request ∧
      h'.kernel.closing = h.kernel.closing) ⟨hafter, hs, rfl⟩ _).mono (fun _ _ _ hq => hq) ?_
    exact fun _ _ hq => hq.1

theorem same_close (hc : Carries True h s) (hs : s.socket = .opened request) {k : Kernel}
    (hclosing : h.kernel.closing = k.closing) :
    SameOutcome (fun _ => Carries True) (Carries True) (Asio.close.run h)
      ((Session.close k).run s) := by
  have hsocket := hc.socket trivial
  rw [hs] at hsocket
  obtain ⟨-, d, hd, himpl⟩ := hsocket
  have hafter : Carries True (h.closedSocket d) s.hangUp := by
    refine ⟨?_, ?_, ?_, ?_, ?_, fun _ => ?_⟩
    · exact (congrArg HttpClient.mBufferSize (setImpl_client h .construct)).trans hc.mBufferSize
    · unfold Host.closedSocket
      rw [setImpl_client]
      exact hc.error
    · exact (setImpl_reactor h .construct).trans hc.reactor
    · -- the open socket is counted beside those that were lost
      have hheld := hc.held
      unfold Session.held at hheld ⊢
      rw [hs] at hheld
      show (h.descriptors.erase d).length = s.leaked
      rw [List.length_erase_of_mem hd, hheld]
      rfl
    · exact (setImpl_trace h .construct).trans hc.trace
    · exact impl?_setImpl himpl .construct
  rw [asio_close_run himpl, hclosing]
  unfold Session.close
  simp only [EStateM.run_bind, run_modify]
  cases k.closing with
  | none => exact .returned hafter
  | some e => exact .stopped hafter

theorem same_readBytes (hc : Carries True h s) {fuel : Nat}
    (hfuel : (h.kernel.stream.getD []).length < fuel) :
    SameOutcome (fun _ => Carries True) (Carries True)
      ((asioLayer.readBytesFromSocket fuel).run h) ((Session.readBytes h.kernel).run s) := by
  have hsocket := hc.socket trivial
  unfold SocketLayer.readBytesFromSocket Session.readBytes
  cases hs : s.socket with
  | unset =>
    rw [hs] at hsocket
    simp only [SocketLayer.exchangeIfOpen, EStateM.run_bind, asio_isOpen_run_none hsocket,
      run_reading, hs]
    exact .stopped hc
  | closed =>
    rw [hs] at hsocket
    have hclosed : SocketImpl.construct.isOpen = false := rfl
    have hclose : Asio.close.run h = .ok () (h.setImpl .construct) := by
      unfold Asio.close
      simp only [EStateM.run_bind, implementation_run hsocket]
      rfl
    simp only [SocketLayer.exchangeIfOpen, EStateM.run_bind, asio_isOpen_run hsocket, hclosed,
      Bool.false_eq_true, ↓reduceIte, run_pure, hclose, run_reading, hs]
    refine .returned ⟨?_, ?_, ?_, ?_, ?_, fun _ => ?_⟩
    · simpa using hc.mBufferSize
    · simpa using hc.error
    · simpa using hc.reactor
    · simpa using hc.held
    · simpa using hc.trace
    · rw [hs]
      exact impl?_setImpl hsocket .construct
  | opened request =>
    rw [hs] at hsocket
    obtain ⟨hheader, d, hd, himpl⟩ := hsocket
    have hopen : SocketImpl.isOpen ⟨some d, .stream⟩ = true := rfl
    have hread : (asioLayer.exchangeIfOpen fuel).run h = (asioLayer.exchange fuel).run h := by
      unfold SocketLayer.exchangeIfOpen
      simp only [EStateM.run_bind, asio_isOpen_run himpl, hopen, ↓reduceIte]
    rw [run_reading_bind, hs]
    refine SameOutcome.bind (hread ▸ same_exchange hc hs hfuel) fun bytes h' s' hafter => ?_
    obtain ⟨hc', hs', hclosing⟩ := hafter
    exact (same_close hc' hs' hclosing).bind fun _ _ _ hclosed => .returned hclosed

end Reading

section Dialling

variable {known : Prop} {h : Host} {s : Session}

theorem hasSocket_newSocket (h : Host) : h.newSocket.impl? = some .construct := by
  simp [Host.impl?, Host.newSocket]

theorem same_newSocket (hc : Carries known h s) :
    SameOutcome
      (fun _ h' s' => Carries True h' s' ∧ s'.socket = .closed ∧ h'.kernel = h.kernel ∧
        h'.client.mHeader = h.client.mHeader)
      (Carries known) (Asio.newSocket.run h) ((Session.newSocket h.kernel).run s) := by
  rw [asio_newSocket_run]
  unfold Session.newSocket
  simp only [EStateM.run_bind, run_reading, ← hc.reactor]
  cases h.kernel.making h.reactor with
  | some e => exact .stopped hc
  | none =>
    refine .returned
      ⟨⟨hc.mBufferSize, hc.error, rfl, hc.held, hc.trace, fun _ => ?_⟩, rfl, rfl, rfl⟩
    exact hasSocket_newSocket _

theorem same_connect (hc : Carries True h s) (hs : s.socket = .closed) {request : Prepared}
    (hheader : h.client.mHeader = request.1) (endpoint : Endpoint) :
    SameOutcome
      (fun connected h' s' => Carries True h' s' ∧ (connected = true → h'.kernel = h.kernel))
      (Carries True)
      ((do
        asioLayer.connect endpoint
        pure (!(← asioLayer.reading (·.mErrorCode.isSet)))).run h)
      ((Session.connect h.kernel request endpoint).run s) := by
  have hsocket := hc.socket trivial
  rw [hs] at hsocket
  have hrun := asio_connect_run hsocket endpoint
  unfold Session.connect SocketLayer.reading
  cases hopening : h.kernel.opening with
  | some e =>
    rw [hopening] at hrun
    have hset : (h.setErrorCode e.code).client.mErrorCode.isSet = true := e.isSet
    have hafter : Carries True (h.setErrorCode e.code) (s.report (some e)) :=
      ⟨hc.mBufferSize, rfl, hc.reactor, hc.held, hc.trace, fun _ => hc.socket trivial⟩
    simp only [EStateM.run_bind, hrun, run_reading, hset]
    exact .returned ⟨hafter, fun hconnected => by cases hconnected⟩
  | none =>
    rw [hopening] at hrun
    obtain ⟨d, himpl, hrun⟩ := hrun
    have hclient : (h.openedSocket d).client = { h.client with mErrorCode := .cleared } := by
      simp [Host.openedSocket, Host.setErrorCode, Host.log]
    have hdialled : ∀ ec e, Reports e ec → Carries True
        (((h.openedSocket d).log (.connect endpoint)).setErrorCode ec)
        ((s.dial request endpoint).report e) := by
      intro ec e hreport
      refine ⟨?_, hreport, ?_, ?_, ?_, fun _ => ⟨?_, d, List.mem_cons_self, himpl⟩⟩
      · exact (congrArg HttpClient.mBufferSize hclient).trans hc.mBufferSize
      · exact (setImpl_reactor h _).trans hc.reactor
      · have hheld := hc.held
        unfold Session.held at hheld
        rw [hs] at hheld
        exact congrArg (· + 1) hheld
      · show ((h.setImpl _).trace ++ [Event.opened]) ++ [Event.connect endpoint] = _
        rw [setImpl_trace, hc.trace, List.append_assoc]
        rfl
      · exact (congrArg HttpClient.mHeader hclient).trans hheader
    simp only [EStateM.run_bind]
    cases hanswers : h.kernel.connect.answers with
    | false =>
      rw [hanswers, if_neg Bool.false_ne_true] at hrun
      rw [hrun]
      exact .stopped (hdialled .cleared none rfl)
    | true =>
      rw [hanswers, if_pos rfl] at hrun
      obtain ⟨ec, hreport, hrun⟩ := hrun
      have hkernel : (h.openedSocket d).kernel = h.kernel := setImpl_kernel h _
      have hset : (((h.openedSocket d).log (.connect endpoint)).setErrorCode
          ec).client.mErrorCode.isSet = h.kernel.connect.failure.isSome := hreport.isSet_eq
      simp only [hrun, run_reading, hset, Option.not_isSome]
      exact .returned ⟨hdialled ec _ hreport, fun _ => hkernel⟩

theorem same_connectToFirst (hc : Carries known h s) {request : Prepared}
    (hheader : h.client.mHeader = request.1) (endpoints : List Endpoint) :
    SameOutcome
      (fun connected h' s' => Carries known h' s' ∧
        (connected = true → Carries True h' s' ∧ h'.kernel = h.kernel))
      (Carries known) ((asioLayer.connectToFirst endpoints).run h)
      ((Session.connectToFirst h.kernel request endpoints).run s) := by
  cases endpoints with
  | nil => exact .returned ⟨hc, fun hconnected => by cases hconnected⟩
  | cons endpoint rest =>
    unfold SocketLayer.connectToFirst
    refine (same_newSocket hc).bind fun _ h' s' hnew => ?_
    obtain ⟨hc', hs', hkernel, hsent⟩ := hnew
    have hconnect := same_connect hc' hs' (hsent.trans hheader) endpoint
    rw [hkernel] at hconnect
    refine hconnect.mono (fun _ _ _ hq => ?_) fun _ _ hq => hq.weaken
    exact ⟨hq.1.weaken, fun hconnected => ⟨hq.1, hq.2 hconnected⟩⟩

end Dialling

section Calls

variable {known : Prop} {h : Host} {s : Session} {fuel : Nat}

theorem carries_asked (hc : Carries known h s) (request : Prepared) (name : Bytes)
    (port : Int32) : Carries known (h.asked request.1 name port) (s.ask request name port) := by
  refine ⟨hc.mBufferSize, hc.error, hc.reactor, ?_, ?_, fun hknown => ?_⟩
  · exact hc.held.trans (s.held_ask request name port).symm
  · exact congrArg (· ++ [Event.resolve name port]) hc.trace
  · have hsocket := hc.socket hknown
    show (s.socket.ask request).Is (h.asked request.1 name port)
    cases hs : s.socket with
    | unset =>
      rw [hs] at hsocket
      exact hsocket
    | closed =>
      rw [hs] at hsocket
      exact hsocket
    | opened old =>
      rw [hs] at hsocket
      exact ⟨rfl, hsocket.2⟩

theorem same_download (hc : Carries known h s)
    (hfuel : (h.kernel.stream.getD []).length < fuel) (url : Bytes) (port : Int32)
    (use : HttpContentData → Bytes) :
    SameOutcome (fun _ => Carries known) (Carries known)
      ((asioLayer.download fuel url port use).run h)
      ((Session.download h.kernel url port use).run s) := by
  rw [asio_download_asked, prepareRequest_eq]
  unfold Session.download
  cases prepareRequest url with
  | error e => exact .stopped hc
  | ok r =>
    obtain ⟨request, name⟩ := r
    have hasked := carries_asked hc request name port
    have hdial := same_connectToFirst hasked rfl h.kernel.endpoints
    refine hdial.bind fun connected h' s' hafter => ?_
    cases connected with
    | false => exact .returned hafter.1
    | true =>
      -- behind a connect the socket is known, whatever was there before
      obtain ⟨hc', hkernel⟩ := hafter.2 rfl
      have hkernel : h'.kernel = h.kernel := hkernel
      have hbytes := same_readBytes hc' (hkernel ▸ hfuel)
      rw [hkernel] at hbytes
      have hread : SameOutcome (fun _ => Carries known) (Carries known)
          ((asioLayer.readBytesFromSocket fuel).run h') ((Session.readBytes h.kernel).run s') :=
        hbytes.mono (fun _ _ _ hq => hq.weaken) fun _ _ hq => hq.weaken
      simp only [SocketLayer.readFromSocket, ↓reduceIte, bind_assoc, pure_bind]
      exact hread.bind fun _ _ _ hend => .returned hend

theorem same_exec (hc : Carries known h s) (hfuel : (h.kernel.stream.getD []).length < fuel)
    (call : Call) :
    SameOutcome (fun _ => Carries known) (Carries known) ((asioLayer.exec fuel call).run h)
      ((Session.exec h.kernel call).run s) := by
  cases call with
  | downloadString url port => exact same_download hc hfuel url port _
  | downloadByteData url port => exact same_download hc hfuel url port _
  | setBufferSize size => exact .returned { hc with mBufferSize := rfl }

theorem same_execPublic (hc : Carries True h s) (hfuel : (h.kernel.stream.getD []).length < fuel)
    (call : PublicCall) :
    SameOutcome (fun _ => Carries True) (Carries True) ((asioLayer.execPublic fuel call).run h)
      ((Session.execPublic h.kernel call).run s) := by
  have hread := same_readBytes hc hfuel
  cases call with
  | call c => exact (same_exec hc hfuel c).bind fun _ _ _ hc' => .returned hc'
  | readBytesFromSocket => exact hread.bind fun _ _ _ hc' => .returned hc'
  | readFromSocket =>
    unfold SocketLayer.execPublic Session.execPublic
    simp only [SocketLayer.readFromSocket, bind_assoc, pure_bind]
    exact hread.bind fun _ _ _ hc' => .returned hc'
  | getEndpointsFromString stringUrl port =>
    unfold SocketLayer.execPublic
    rw [EStateM.run_bind, asio_getEndpointsFromString_run]
    exact .returned { hc with trace := congrArg (· ++ [Event.resolve stringUrl port]) hc.trace }

end Calls

theorem Reports.reported_eq {failure : Option Failure} {ec : ErrorCode}
    (h : Reports failure ec) : ec.reported = failure.map (·.code) := by
  unfold ErrorCode.reported
  rw [h.isSet_eq]
  cases failure with
  | some e => exact congrArg some h
  | none => rfl

namespace Session

/-- A call of a session needs no fuel. -/
def perform (s : Session) (step : HostPublicStep) : EStateM.Result Halt Session PublicValue :=
  (execPublic step.kernel step.call).run s.start

def afterPublic (s : Session) (step : HostPublicStep) : Option Session :=
  cameBack Halt.ends (s.perform step)

def afterAllPublic : Session → List HostPublicStep → Option Session := List.foldlM afterPublic

def seen (s : Session) : Seen := ⟨s.error.map (·.code), s.held, s.trace⟩

def observations : Session → List HostPublicStep → List (Except Halt PublicValue × Seen) :=
  observedRun perform Halt.ends seen

end Session

theorem Carries.start {known : Prop} {h : Host} {s : Session} (hc : Carries known h s)
    (k : Kernel) : Carries known (h.start k) s.start := { hc with trace := rfl }

theorem Carries.seen_eq {known : Prop} {h : Host} {s : Session} (hc : Carries known h s) :
    h.seen = s.seen := by
  unfold Host.seen Session.seen
  rw [hc.error.reported_eq, hc.held, hc.trace]

theorem carries_init (k : Kernel) : Carries True (Host.init k) Session.init where
  mBufferSize := rfl
  error := rfl
  reactor := rfl
  held := rfl
  trace := rfl
  socket _ := rfl

def HostPublicStep.EnoughFuel (step : HostPublicStep) : Prop :=
  (step.kernel.stream.getD []).length < step.fuel

section Runs

variable {h h' : Host} {s : Session} {step : HostPublicStep} {steps : List HostPublicStep}

theorem carries_execPublic (hc : Carries True h s) (hfuel : step.EnoughFuel) :
    SameOutcome (fun _ => Carries True) (Carries True) (h.execPublic step) (s.perform step) :=
  same_execPublic (hc.start step.kernel) hfuel step.call

/-- Any run of a new client shows what the run of its session shows, which has no sockets, no
buffer and no rounds of a loop in it. -/
theorem client_runs_as_session (hfuel : ∀ step ∈ steps, step.EnoughFuel) (k : Kernel) :
    (Host.init k).observations steps = Session.init.observations steps := by
  have hstep : ∀ h s (i j : HostPublicStep), Carries True h s → i = j ∧ i.EnoughFuel →
      SameOutcome (fun _ => Carries True) (Carries True) (h.execPublic i) (s.perform j) := by
    rintro h s i j hc ⟨rfl, hi⟩
    exact carries_execPublic hc hi
  have hsteps : List.Forall₂ (fun i j => i = j ∧ i.EnoughFuel) steps steps :=
    List.forall₂_same.2 fun step hmem => ⟨rfl, hfuel step hmem⟩
  exact observedRun_eq hstep (fun _ _ hc => hc) (fun _ _ hc => hc.seen_eq) hsteps (carries_init k)

theorem client_runs_as_session_refused :
    let seg : Segment := ⟨text "H\r\n\r\na", by decide⟩
    let refusing := { Kernel.slow seg with connect := ⟨.error ⟨111, by decide⟩, .ready, .ok 0⟩ }
    let steps : List HostPublicStep :=
      [⟨.call (.downloadString (text "http://a/") 80), refusing, 9⟩,
        ⟨.readFromSocket, .slow seg, 9⟩, ⟨.call (.setBufferSize 3), .slow seg, 9⟩,
        ⟨.call (.downloadByteData (text "http://b/c") 80), .slow seg, 9⟩]
    (Host.init refusing).observations steps = Session.init.observations steps := by
  intro seg refusing steps
  refine client_runs_as_session (fun step hstep => ?_) refusing
  simp only [steps, List.mem_cons, List.not_mem_nil, or_false] at hstep
  rcases hstep with rfl | rfl | rfl | rfl <;>
    exact show (_ : Nat) < 9 by decide

theorem carries_afterPublic (hc : Carries True h s) (hrun : h.afterPublic step = some h') :
    ∃ s', s.afterPublic step = some s' ∧ Carries True h' s' := by
  obtain ⟨call, k, fuel⟩ := step
  -- with enough fuel the call comes back in the same way, and then the session's does
  let more : HostPublicStep := ⟨call, k, max fuel ((k.stream.getD []).length + 1)⟩
  have hmore : more.EnoughFuel := by
    show (k.stream.getD []).length < max fuel ((k.stream.getD []).length + 1)
    omega
  have houtlasts := SocketLayer.outlasts_execPublic (L := asioLayer)
    (Nat.le_max_left fuel ((k.stream.getD []).length + 1)) call (h.start k)
  have hback : h.afterPublic more = some h' := by
    rcases houtlasts with ⟨t, hstops⟩ | hequal
    · have hnone : h.afterPublic ⟨call, k, fuel⟩ = none :=
        congrArg (cameBack Halt.ends) hstops
      rw [hnone] at hrun
      cases hrun
    · exact (congrArg (cameBack Halt.ends) hequal).trans hrun
  have hrel : Option.Rel (Carries True) (h.afterPublic more) (s.afterPublic more) :=
    (carries_execPublic hc hmore).cameBack
  rw [hback] at hrel
  cases hs : s.afterPublic more with
  | none =>
    rw [hs] at hrel
    cases hrel
  | some s' =>
    rw [hs] at hrel
    cases hrel with
    | some hc' => exact ⟨s', hs, hc'⟩

theorem carries_afterAllPublic (hc : Carries True h s) (hrun : h.afterAllPublic steps = some h') :
    ∃ s', s.afterAllPublic steps = some s' ∧ Carries True h' s' := by
  induction steps generalizing h s with
  | nil =>
    obtain rfl := Option.some.inj hrun
    exact ⟨s, rfl, hc⟩
  | cons step rest ih =>
    unfold Host.afterAllPublic at hrun
    rw [List.foldlM_cons] at hrun
    obtain ⟨v, hv, hrest⟩ := Option.bind_eq_some_iff.1 hrun
    obtain ⟨t, ht, hct⟩ := carries_afterPublic hc hv
    obtain ⟨s', hs', hc'⟩ := ih hct hrest
    refine ⟨s', ?_, hc'⟩
    unfold Session.afterAllPublic
    rw [List.foldlM_cons, ht]
    exact hs'

end Runs

end AsioClient
