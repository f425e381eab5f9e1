import AsioClient.ClientSession

/-!
One run of each operation of asio over any kernel, on the socket of the client, and of the
programs made of them that a download goes through before it is connected.
-/

set_option autoImplicit false

namespace AsioClient
open Imperative

theorem implementation_run {h : Host} {impl : SocketImpl} (himpl : h.impl? = some impl) :
    Asio.implementation.run h = .ok impl h := by
  unfold Asio.implementation
  simp only [EStateM.run_bind, run_reading, himpl, run_pure]

theorem implementation_run_none {h : Host} (himpl : h.impl? = none) :
    Asio.implementation.run h = .error .undefined h := by
  unfold Asio.implementation
  simp only [EStateM.run_bind, run_reading, himpl, run_throw]

theorem asio_isOpen_run {h : Host} {impl : SocketImpl} (himpl : h.impl? = some impl) :
    Asio.isOpen.run h = .ok impl.isOpen h := by
  unfold Asio.isOpen
  simp only [EStateM.run_bind, implementation_run himpl, run_pure]

theorem asio_isOpen_run_none {h : Host} (himpl : h.impl? = none) :
    Asio.isOpen.run h = .error .undefined h := by
  unfold Asio.isOpen
  simp only [EStateM.run_bind, implementation_run_none himpl]

theorem asio_getEndpointsFromString_run (name : Bytes) (port : Int32) (h : Host) :
    (asioLayer.getEndpointsFromString name port).run h =
      .ok h.kernel.endpoints (h.log (.resolve name port)) := by
  refine SocketLayer.getEndpointsFromString_run h.kernel.resolving ?_
  show (Asio.resolve name port).run h = _
  have hanswer := resolveOp_resolving h.kernel
  have hkernel : (h.log (.resolve name port)).kernel = h.kernel := rfl
  unfold Asio.resolve
  simp only [EStateM.run_bind, run_modify, run_reading, hkernel]
  cases hr : h.kernel.resolving with
  | error e =>
    rw [hr] at hanswer
    simp only [hanswer, e.isSet, ↓reduceIte]
    rfl
  | ok endpoints =>
    rw [hr] at hanswer
    obtain ⟨ec, hop, hok⟩ := hanswer
    simp only [hop, hok, Bool.false_eq_true, ↓reduceIte]
    rfl

def Host.asked (header name : Bytes) (port : Int32) (h : Host) : Host :=
  { h with client := h.client.setRequest header name port }.log (.resolve name port)

/-- What a download does behind its request. -/
def SocketLayer.dialAndRead {σ : Type} (L : SocketLayer σ) (fuel : Nat)
    (use : HttpContentData → Bytes) (endpoints : List Endpoint) : EStateM Halt σ Bytes := do
  if ← L.connectToFirst endpoints then do
    let result ← L.readFromSocket fuel
    pure (use result)
  else pure []

theorem asio_download_asked (fuel : Nat) (url : Bytes) (port : Int32)
    (use : HttpContentData → Bytes) (h : Host) :
    (asioLayer.download fuel url port use).run h =
      match prepare url .GET with
      | .error e => .error (.threw e) h
      | .ok (header, name) =>
        (asioLayer.dialAndRead fuel use h.kernel.endpoints).run (h.asked header name port) := by
  unfold SocketLayer.download SocketLayer.dialAndRead
  rw [EStateM.run_bind, SocketLayer.connectClient_run]
  cases prepare url .GET with
  | error e => rfl
  | ok request =>
    obtain ⟨header, name⟩ := request
    unfold SocketLayer.resolveAndConnect SocketLayer.reading
    dsimp only
    simp only [EStateM.run_bind, run_reading, asio_getEndpointsFromString_run]
    rfl

theorem asio_newSocket_run (h : Host) :
    Asio.newSocket.run h =
      match h.kernel.making h.reactor with
      | some e => .error (.threw (.systemError e.code)) h
      | none => .ok () { h with reactor := true }.newSocket := by
  unfold Asio.newSocket Asio.useReactor Kernel.making
  simp only [EStateM.run_bind, run_reading]
  cases hr : h.reactor with
  | true =>
    have hsame : { h with reactor := true } = h := by rw [← hr]
    rw [hsame]
    rfl
  | false =>
    simp only [Bool.false_eq_true, ↓reduceIte, EStateM.run_bind, run_reading]
    cases makeReactor h.kernel.reactor with
    | error e => rfl
    | ok done => rfl

def Host.openedSocket (s : Nat) (h : Host) : Host :=
  { ((h.setImpl ⟨some s, .stream⟩).log .opened).setErrorCode .cleared with
    descriptors := s :: h.descriptors }

theorem impl?_setImpl {h : Host} {old : SocketImpl} (himpl : h.impl? = some old)
    (new : SocketImpl) : (h.setImpl new).impl? = some new := by
  obtain ⟨i, hi, hstored⟩ := Option.bind_eq_some_iff.1 himpl
  have hlt := (List.getElem?_eq_some_iff.1 hstored).1
  simp [Host.setImpl, Host.impl?, hi, hlt]

@[simp] theorem setImpl_client (h : Host) (impl : SocketImpl) :
    (h.setImpl impl).client = h.client := by
  unfold Host.setImpl
  split <;> rfl

@[simp] theorem setImpl_reactor (h : Host) (impl : SocketImpl) :
    (h.setImpl impl).reactor = h.reactor := by
  unfold Host.setImpl
  split <;> rfl

@[simp] theorem setImpl_descriptors (h : Host) (impl : SocketImpl) :
    (h.setImpl impl).descriptors = h.descriptors := by
  unfold Host.setImpl
  split <;> rfl

@[simp] theorem setImpl_kernel (h : Host) (impl : SocketImpl) :
    (h.setImpl impl).kernel = h.kernel := by
  unfold Host.setImpl
  split <;> rfl

@[simp] theorem setImpl_trace (h : Host) (impl : SocketImpl) :
    (h.setImpl impl).trace = h.trace := by
  unfold Host.setImpl
  split <;> rfl

theorem doOpen_run (h : Host) :
    match h.kernel.opening with
    | some e => h.doOpen .construct = h.setErrorCode e.code
    | none => ∃ s, h.doOpen .construct = h.openedSocket s := by
  have hclosed : SocketImpl.construct.isOpen = false := rfl
  unfold Host.doOpen socketOp Kernel.opening
  rw [hclosed]
  cases h.kernel.socket with
  | error e => rfl
  | ok s =>
    by_cases herr : registerDescriptor h.kernel.epollCtl = 0
    · simp only [herr, ne_eq, not_true_eq_false, Bool.false_eq_true, ↓reduceIte]
      exact ⟨s, rfl⟩
    · have hset : (registerDescriptor h.kernel.epollCtl != 0) = true := by simpa using herr
      simp only [herr, ne_eq, not_false_eq_true, Bool.false_eq_true, ↓reduceIte, systemFailure,
        hset, ↓reduceDIte]

theorem asio_syncConnect_run (endpoint : Endpoint) (s : Nat) (state : StateType) (h : Host) :
    if h.kernel.connect.answers then ∃ ec, Reports h.kernel.connect.failure ec ∧
        (Asio.syncConnect endpoint ⟨some s, state⟩).run h =
          .ok () ((h.log (.connect endpoint)).setErrorCode ec)
      else (Asio.syncConnect endpoint ⟨some s, state⟩).run h =
        .error .running (h.log (.connect endpoint)) := by
  have hconnect := syncConnect_some s h.kernel.connect h.client.mErrorCode
  have hkernel : (h.log (.connect endpoint)).kernel = h.kernel := rfl
  have hclient : (h.log (.connect endpoint)).client = h.client := rfl
  unfold Asio.syncConnect
  simp only [EStateM.run_bind, run_modify, run_reading, hkernel, hclient]
  cases hanswers : h.kernel.connect.answers with
  | false =>
    rw [hanswers, if_neg Bool.false_ne_true] at hconnect
    rw [if_neg Bool.false_ne_true, hconnect]
    rfl
  | true =>
    rw [hanswers, if_pos rfl] at hconnect
    obtain ⟨ec, hrun, hreport⟩ := hconnect
    rw [if_pos rfl, hrun]
    exact ⟨ec, hreport, rfl⟩

theorem asio_connect_run {h : Host} (himpl : h.impl? = some .construct) (endpoint : Endpoint) :
    match h.kernel.opening with
    | some e => (Asio.connect endpoint).run h = .ok () (h.setErrorCode e.code)
    | none => ∃ d, (h.openedSocket d).impl? = some ⟨some d, .stream⟩ ∧
        if h.kernel.connect.answers then ∃ ec, Reports h.kernel.connect.failure ec ∧
          (Asio.connect endpoint).run h =
            .ok () (((h.openedSocket d).log (.connect endpoint)).setErrorCode ec)
        else (Asio.connect endpoint).run h =
          .error .running ((h.openedSocket d).log (.connect endpoint)) := by
  have hclosed : SocketImpl.construct.isOpen = false := rfl
  have hopen := doOpen_run h
  unfold Asio.connect
  simp only [EStateM.run_bind, implementation_run himpl, hclosed, Bool.false_eq_true, ↓reduceIte,
    run_modify, run_reading]
  cases hopening : h.kernel.opening with
  | some e =>
    rw [hopening] at hopen
    have hset : (h.setErrorCode e.code).client.mErrorCode.isSet = true := e.isSet
    simp only [hopen, hset, ↓reduceIte]
    rfl
  | none =>
    rw [hopening] at hopen
    obtain ⟨d, hopen⟩ := hopen
    have hclear : (h.openedSocket d).client.mErrorCode.isSet = false := rfl
    have hcurrent : (h.openedSocket d).impl? = some ⟨some d, .stream⟩ :=
      impl?_setImpl himpl ⟨some d, .stream⟩
    have hkernel : (h.openedSocket d).kernel = h.kernel := setImpl_kernel h ⟨some d, .stream⟩
    have hsync := asio_syncConnect_run endpoint d .stream (h.openedSocket d)
    rw [hkernel] at hsync
    simp only [hopen, hclear, Bool.false_eq_true, ↓reduceIte, EStateM.run_bind,
      implementation_run hcurrent]
    exact ⟨d, hcurrent, hsync⟩

def Host.received (ec : ErrorCode) (recvs : List (Attempt Arrival)) (h : Host) : Host :=
  { h.setErrorCode ec with kernel := { h.kernel with recvs := recvs } }

theorem asio_readSome_run (size : Nat) {h : Host} {impl : SocketImpl}
    (himpl : h.impl? = some impl) :
    (Asio.readSome size).run h =
      match syncRecv1 impl.socket impl.state size h.kernel.recvs h.client.mErrorCode with
      | none => .error .running h
      | some (bytes, ec, recvs) => .ok bytes (h.received ec recvs) := by
  unfold Asio.readSome
  simp only [EStateM.run_bind, implementation_run himpl, run_reading]
  cases syncRecv1 impl.socket impl.state size h.kernel.recvs h.client.mErrorCode with
  | none => rfl
  | some r => rfl

section Loop

variable {h : Host} {s size : Nat}

theorem asio_delivery (himpl : h.impl? = some ⟨some s, .stream⟩)
    (hvec : vectorOfSize h.client.mBufferSize = .ok size) (hsize : size ≠ 0) (ending : Failure) :
    asioLayer.Delivery size
      (fun segs v => ∃ ec recvs, ec.isSet = false ∧ arrivals recvs = some (segs, ending) ∧
        v = h.received ec recvs)
      (fun v => ∃ recvs, v = h.received .cleared recvs) where
  reads := by
    rintro segs v ⟨ec, recvs, hok, -, rfl⟩
    exact ⟨hok, hvec⟩
  more := by
    rintro seg later v ⟨ec, recvs, hok, harrive, rfl⟩
    have himpl' : (h.received ec recvs).impl? = some ⟨some s, .stream⟩ := himpl
    obtain ⟨bytes, ec', rest, hrun, rfl, hok', hrest⟩ :=
      syncRecv1_arrivals (s := s) hsize harrive ec
    refine ⟨h.received ec' rest, ?_, ec', rest, hok', hrest, rfl⟩
    show (Asio.readSome size).run (h.received ec recvs) = _
    rw [asio_readSome_run size himpl']
    show (match syncRecv1 (some s) .stream size recvs ec with
      | none => _
      | some (bytes, ec, recvs) => _) = _
    rw [hrun]
    rfl
  last := by
    rintro v ⟨ec, recvs, hok, harrive, rfl⟩
    have himpl' : (h.received ec recvs).impl? = some ⟨some s, .stream⟩ := himpl
    obtain ⟨bytes, ec', rest, hrun, -, hec⟩ := syncRecv1_arrivals (s := s) hsize harrive ec
    refine ⟨bytes, h.received ec' rest, ?_, ?_, rest, rfl⟩
    · show (Asio.readSome size).run (h.received ec recvs) = _
      rw [asio_readSome_run size himpl']
      show (match syncRecv1 (some s) .stream size recvs ec with
        | none => _
        | some (bytes, ec, recvs) => _) = _
      rw [hrun]
      rfl
    · exact hec ▸ ending.isSet

theorem asio_endless (himpl : h.impl? = some ⟨some s, .stream⟩)
    (hvec : vectorOfSize h.client.mBufferSize = .ok size) :
    asioLayer.Endless size fun v => ∃ ec recvs, ec.isSet = false ∧
      (size = 0 ∨ arrivals recvs = none) ∧ v = h.received ec recvs where
  reads := by
    rintro v ⟨ec, recvs, hok, -, rfl⟩
    exact ⟨hok, hvec⟩
  more := by
    rintro v ⟨ec, recvs, hok, hend, rfl⟩
    have himpl' : (h.received ec recvs).impl? = some ⟨some s, .stream⟩ := himpl
    have hread := asio_readSome_run size himpl'
    by_cases hsize : size = 0
    · subst hsize
      exact ⟨_, ⟨ec.succeed, recvs, rfl, .inl rfl, rfl⟩, .inr ⟨[], hread⟩⟩
    · rcases syncRecv1_endless (s := s) hsize (hend.resolve_left hsize) ec with
        hwaits | ⟨bytes, ec', rest, hrun, hok', hrest⟩
      · refine ⟨_, ⟨ec, recvs, hok, hend, rfl⟩, .inl ?_⟩
        show (Asio.readSome size).run (h.received ec recvs) = _
        rw [hread]
        show (match syncRecv1 (some s) .stream size recvs ec with
          | none => _
          | some (bytes, ec, recvs) => _) = _
        rw [hwaits]
      · refine ⟨_, ⟨ec', rest, hok', .inr hrest, rfl⟩, .inr ⟨bytes, ?_⟩⟩
        show (Asio.readSome size).run (h.received ec recvs) = _
        rw [hread]
        show (match syncRecv1 (some s) .stream size recvs ec with
          | none => _
          | some (bytes, ec, recvs) => _) = _
        rw [hrun]
        rfl

end Loop

theorem asio_waitRead_run {h : Host} {s : Nat} (himpl : h.impl? = some ⟨some s, .stream⟩) :
    Asio.waitRead.run h =
      if h.kernel.wait.answers then
        match h.kernel.wait.failure with
        | some e => .error (.threw (.systemError e.code)) (h.log .waitRead)
        | none => .ok () (h.log .waitRead)
      else .error .running (h.log .waitRead) := by
  have hpoll := pollRead_stream s h.kernel.wait
  have hkernel : (h.log .waitRead).kernel = h.kernel := rfl
  unfold Asio.waitRead
  simp only [EStateM.run_bind, implementation_run himpl, run_modify, run_reading, hkernel]
  cases hanswers : h.kernel.wait.answers with
  | false =>
    rw [hanswers, if_neg Bool.false_ne_true] at hpoll
    rw [hpoll]
    rfl
  | true =>
    rw [hanswers, if_pos rfl] at hpoll
    obtain ⟨result, ec, hrun, hreport⟩ := hpoll
    rw [hrun, if_pos rfl]
    cases hw : h.kernel.wait.failure with
    | some e =>
      rw [hw] at hreport
      obtain rfl : ec = e.code := hreport
      simp only [e.isSet, ↓reduceIte]
      rfl
    | none =>
      rw [hw] at hreport
      have hclear : ec.isSet = false := hreport
      simp only [hclear, Bool.false_eq_true, ↓reduceIte]
      rfl

def Host.wrote (ec : ErrorCode) (sends : List (Attempt Taken)) (events : List Event)
    (h : Host) : Host :=
  { h.setErrorCode ec with
    kernel := { h.kernel with sends := sends }
    trace := h.trace ++ events }

theorem asio_writeSome_run {h : Host} {s : Nat} (himpl : h.impl? = some ⟨some s, .stream⟩)
    {buffer : Bytes} (hb : buffer ≠ []) :
    match written h.kernel.sends with
    | none => (Asio.writeSome buffer).run h = .error .running h
    | some first => ∃ n ec sends, Reports first.failure ec ∧
        (Asio.writeSome buffer).run h = .ok n (h.wrote ec sends (first.sent buffer)) := by
  have hpos : 0 < buffer.length := List.length_pos_iff.2 hb
  have hwrite := syncSend1_written (s := s) (Nat.ne_of_gt hpos) h.kernel.sends h.client.mErrorCode
  unfold Asio.writeSome
  simp only [EStateM.run_bind, implementation_run himpl, run_reading]
  cases hfirst : written h.kernel.sends with
  | none =>
    rw [hfirst] at hwrite
    rw [hwrite]
    rfl
  | some first =>
    rw [hfirst] at hwrite
    cases first with
    | fails e =>
      obtain ⟨rest, hrun⟩ := hwrite
      rw [hrun]
      refine ⟨0, e.code, rest, rfl, ?_⟩
      simp only [Nat.lt_irrefl, ↓reduceIte, WriteResult.sent, Host.wrote, List.append_nil]
      rfl
    | accepts m mpos =>
      obtain ⟨ec, rest, hclear, hrun⟩ := hwrite
      rw [hrun]
      refine ⟨min m buffer.length, ec, rest, hclear, ?_⟩
      have hn : 0 < min m buffer.length := by omega
      have htake : buffer.take (min m buffer.length) = buffer.take m :=
        List.take_eq_take_min.symm
      simp only [hn, ↓reduceIte, WriteResult.sent, Host.wrote, htake]
      rfl

def Host.closedSocket (s : Nat) (h : Host) : Host :=
  { h.setImpl .construct with descriptors := h.descriptors.erase s }

theorem asio_close_run {h : Host} {s : Nat} (himpl : h.impl? = some ⟨some s, .stream⟩) :
    Asio.close.run h =
      match h.kernel.closing with
      | some e => .error (.threw (.systemError e.code)) (h.closedSocket s)
      | none => .ok () (h.closedSocket s) := by
  have hreport := reports_closeOp s .stream h.kernel
  unfold Asio.close
  simp only [EStateM.run_bind, implementation_run himpl, run_reading, run_modify]
  unfold Reports at hreport
  cases hclosing : h.kernel.closing with
  | some e =>
    rw [hclosing] at hreport
    simp only [hreport, e.isSet, ↓reduceIte]
    rfl
  | none =>
    rw [hclosing] at hreport
    simp only [hreport, Bool.false_eq_true, ↓reduceIte]
    rfl

theorem asio_readLoop_run {h : Host} {s : Nat} (himpl : h.impl? = some ⟨some s, .stream⟩)
    (hok : h.client.mErrorCode.isSet = false) {fuel : Nat}
    (hfuel : (h.kernel.stream.getD []).length < fuel) :
    ∃ ec recvs, ec.isSet = false ∧ (asioLayer.readLoop fuel []).run h =
      (settled (h.kernel.received h.client.mBufferSize)).run (h.received ec recvs) := by
  obtain ⟨fuel, rfl⟩ : ∃ n, fuel = n + 1 := ⟨fuel - 1, by omega⟩
  have hsame : h = h.received h.client.mErrorCode h.kernel.recvs := rfl
  unfold Kernel.received
  by_cases hneg : h.client.mBufferSize.toInt < 0
  · refine ⟨h.client.mErrorCode, h.kernel.recvs, hok, ?_⟩
    simp only [hneg, ↓reduceIte]
    exact SocketLayer.readLoop_negative (L := asioLayer) (s := h) hok hneg fuel []
  rw [if_neg hneg]
  by_cases hzero : h.client.mBufferSize = 0
  · have hvec : vectorOfSize h.client.mBufferSize = .ok 0 := by rw [hzero]; rfl
    obtain ⟨t, hrun, ec, recvs, hclear, -, rfl⟩ :=
      (asio_endless himpl hvec).readLoop_run ⟨_, _, hok, .inl rfl, hsame⟩ (fuel + 1) []
    rw [hrun, if_pos hzero]
    exact ⟨ec, recvs, hclear, rfl⟩
  rw [if_neg hzero]
  have hne : h.client.mBufferSize.toInt ≠ 0 := fun hint => hzero (Int32.toInt_inj.1 hint)
  obtain ⟨size, hvec, hsize⟩ := vectorOfSize_of_pos (n := h.client.mBufferSize) (by omega)
  unfold Kernel.stream at hfuel ⊢
  cases hend : arrivals h.kernel.recvs with
  | none =>
    obtain ⟨t, hrun, ec, recvs, hclear, -, rfl⟩ :=
      (asio_endless himpl hvec).readLoop_run ⟨_, _, hok, .inr hend, hsame⟩ (fuel + 1) []
    rw [hrun]
    exact ⟨ec, recvs, hclear, rfl⟩
  | some r =>
    obtain ⟨segs, ending⟩ := r
    rw [hend] at hfuel
    obtain ⟨t, hrun, recvs, rfl⟩ := (asio_delivery himpl hvec hsize ending).readLoop_run hsize
      ⟨_, _, hok, hend, hsame⟩ hfuel []
    rw [hrun]
    exact ⟨.cleared, recvs, rfl, rfl⟩

/-- The exchange up to its loop, which is not entered behind a failed write. -/
theorem asio_exchange_run {h : Host} {s : Nat} (himpl : h.impl? = some ⟨some s, .stream⟩)
    (hheader : h.client.mHeader ≠ []) {fuel : Nat}
    (hfuel : (h.kernel.stream.getD []).length < fuel) :
    match written h.kernel.sends with
    | none => (asioLayer.exchange fuel).run h = .error .running h
    | some first => ∃ ec sends recvs, Reports first.failure ec ∧
        (asioLayer.exchange fuel).run h =
          (settled (h.kernel.answer first h.client.mBufferSize)).run
            (((h.wrote ec sends (first.sent h.client.mHeader)).log .waitRead).received
              ec recvs) := by
  have hwrite := asio_writeSome_run himpl hheader
  unfold SocketLayer.exchange SocketLayer.reading
  simp only [EStateM.run_bind, run_reading]
  cases hfirst : written h.kernel.sends with
  | none =>
    rw [hfirst] at hwrite
    simp only [hwrite]
  | some first =>
    rw [hfirst] at hwrite
    obtain ⟨n, ec, sends, hreport, hrun⟩ := hwrite
    have hwait := asio_waitRead_run (h := h.wrote ec sends (first.sent h.client.mHeader)) himpl
    have hkernel : (h.wrote ec sends (first.sent h.client.mHeader)).kernel.wait =
        h.kernel.wait := rfl
    rw [hkernel] at hwait
    unfold Kernel.answer
    simp only [hrun, hwait]
    cases h.kernel.wait.answers with
    | false => exact ⟨ec, sends, h.kernel.recvs, hreport, rfl⟩
    | true =>
      cases h.kernel.wait.failure with
      | some e => exact ⟨ec, sends, h.kernel.recvs, hreport, rfl⟩
      | none =>
        let v := (h.wrote ec sends (first.sent h.client.mHeader)).log .waitRead
        cases hfailure : first.failure with
        | some e =>
          rw [hfailure] at hreport
          obtain rfl : ec = e.code := hreport
          obtain ⟨fuel, rfl⟩ : ∃ n, fuel = n + 1 := ⟨fuel - 1, by omega⟩
          refine ⟨e.code, sends, h.kernel.recvs, rfl, ?_⟩
          exact SocketLayer.readLoop_set (L := asioLayer) (s := v) e.isSet fuel []
        | none =>
          rw [hfailure] at hreport
          obtain ⟨ec', recvs, hclear, hloop⟩ :=
            asio_readLoop_run (h := v) himpl hreport hfuel
          exact ⟨ec', sends, recvs, hclear, hloop⟩

end AsioClient
