import AsioClient.AsioOperations
import AsioClient.PublicCalls

/-!
What a call puts on the network, under any kernel and also while it hangs: no step is taken
twice or out of order, and the bytes sent are the beginning of one request.
-/

set_option autoImplicit false

namespace AsioClient
open Imperative

/-- The request in hand, and the events there may have been so far, in their order. -/
structure Host.Shows (header : Bytes) (events : List Event) (h : Host) : Prop where
  header : h.client.mHeader = header
  trace : h.trace.Sublist events

namespace Host.Shows

variable {header : Bytes} {events : List Event} {h : Host}

theorem mono (hs : h.Shows header events) {more : List Event} (hle : events.Sublist more) :
    h.Shows header more := ⟨hs.header, hs.trace.trans hle⟩

theorem more (hs : h.Shows header events) (later : List Event) :
    h.Shows header (events ++ later) := hs.mono (List.sublist_append_left _ _)

theorem log (hs : h.Shows header events) (e : Event) :
    (h.log e).Shows header (events ++ [e]) :=
  ⟨hs.header, List.Sublist.append hs.trace (List.Sublist.refl [e])⟩

theorem setImpl (hs : h.Shows header events) (impl : SocketImpl) :
    (h.setImpl impl).Shows header events := by
  unfold Host.setImpl
  cases h.client.mSocket with
  | none => exact hs
  | some i => exact ⟨hs.header, hs.trace⟩

end Host.Shows

/-- From one stage to the next, also where `p` stops on the way. -/
def Moves {α : Type} (header : Bytes) (events more : List Event) (p : EStateM Halt Host α) :
    Prop :=
  Triple (Host.Shows header events) p (fun _ => Host.Shows header more)
    fun _ => Host.Shows header more

def Silent {α : Type} (header : Bytes) (events : List Event) (p : EStateM Halt Host α) : Prop :=
  Preserves (Host.Shows header events) p

section Operations

variable {header : Bytes} {events : List Event}

theorem Silent.moves {α : Type} {more : List Event} {p : EStateM Halt Host α}
    (hp : Silent header events p) (hle : events.Sublist more) : Moves header events more p :=
  hp.mono (fun _ hs => hs) (fun _ _ hs => hs.mono hle) fun _ _ hs => hs.mono hle

theorem moves_bind {α β : Type} {more : List Event} {p : EStateM Halt Host β}
    {k : β → EStateM Halt Host α} (hp : Silent header events p) (hle : events.Sublist more)
    (hk : ∀ b, Moves header events more (k b)) : Moves header events more (p >>= k) :=
  .bind (hp.mono (fun _ hs => hs) (fun _ _ hs => hs) fun _ _ hs => hs.mono hle) hk

theorem silent_implementation : Silent header events Asio.implementation := by
  unfold Asio.implementation
  refine .bind (.reading _) fun impl => ?_
  cases impl with
  | none => exact .throw _
  | some impl => exact .pure impl

theorem silent_newSocket : Silent header events Asio.newSocket := by
  unfold Asio.newSocket Asio.useReactor
  refine .bind (.bind (.reading _) fun made => .ite (.pure ()) ?_) fun _ =>
    .modify fun h hs => ⟨hs.header, hs.trace⟩
  refine .bind (.reading _) fun reply => ?_
  cases reply with
  | ok done => exact .modify fun h hs => ⟨hs.header, hs.trace⟩
  | error e => exact .throw _

theorem moves_waitRead : Moves header events (events ++ [.waitRead]) Asio.waitRead := by
  unfold Asio.waitRead
  refine moves_bind silent_implementation (List.sublist_append_left _ _) fun impl => ?_
  refine Triple.bind (R := fun _ => Host.Shows header (events ++ [.waitRead]))
    (.modify fun h hs => hs.log .waitRead) fun _ => Triple.bind_reading fun wait => ?_
  cases pollRead impl.socket impl.state wait .cleared with
  | none => exact .throw fun h hs => hs
  | some r => exact .ite (fun _ => .throw fun h hs => hs) fun _ => .pure fun h hs => hs

theorem silent_readSome (size : Nat) : Silent header events (Asio.readSome size) := by
  unfold Asio.readSome
  refine .bind silent_implementation fun impl => .bind (.reading _) fun received => ?_
  match received with
  | none => exact .throw _
  | some (bytes, ec, recvs) =>
    exact .bind (.modify fun h hs => ⟨hs.header, hs.trace⟩) fun _ => .pure bytes

theorem silent_close : Silent header events Asio.close := by
  unfold Asio.close
  refine .bind silent_implementation fun impl => ?_
  cases impl.socket with
  | none => exact .modify fun h hs => hs.setImpl .construct
  | some s =>
    refine .bind (.reading _) fun reply => .bind (.modify fun h hs => ?_) fun _ => ?_
    · exact ⟨(hs.setImpl .construct).header, (hs.setImpl .construct).trace⟩
    · exact .ite (.throw _) (.pure _)

theorem shows_doOpen {h : Host} (hs : h.Shows header events) (impl : SocketImpl) :
    (h.doOpen impl).Shows header (events ++ [.opened]) := by
  have hstill := hs.more [.opened]
  unfold Host.doOpen
  split
  · exact ⟨hstill.header, hstill.trace⟩
  · unfold socketOp
    cases h.kernel.socket with
    | error e => exact ⟨hstill.header, hstill.trace⟩
    | ok s =>
      dsimp only
      split
      · exact ⟨hstill.header, hstill.trace⟩
      · have hopened := (hs.setImpl ⟨some s, .stream⟩).log .opened
        exact ⟨hopened.header, hopened.trace⟩

theorem moves_connect (endpoint : Endpoint) :
    Moves header events (events ++ [.opened, .connect endpoint]) (Asio.connect endpoint) := by
  have hsync : ∀ impl, Moves header (events ++ [.opened])
      (events ++ [.opened, .connect endpoint]) (Asio.syncConnect endpoint impl) := by
    intro impl
    unfold Asio.syncConnect
    refine Triple.bind (R := fun _ => Host.Shows header (events ++ [.opened, .connect endpoint]))
      (.modify fun h hs => ?_) fun _ => Triple.bind_reading fun result => ?_
    · have hconnect := hs.log (.connect endpoint)
      rwa [List.append_assoc] at hconnect
    · cases result with
      | none => exact .throw fun h hs => hs
      | some ec => exact .modify fun h hs => ⟨hs.header, hs.trace⟩
  have hopened : (events ++ [Event.opened]).Sublist (events ++ [.opened, .connect endpoint]) :=
    (List.sublist_append_left [_] [_]).append_left events
  unfold Asio.connect
  refine moves_bind silent_implementation (List.sublist_append_left _ _) fun impl => ?_
  refine .ite (fun _ => (hsync impl).mono (fun h hs => hs.more _) (fun _ _ hs => hs)
    fun _ _ hs => hs) fun _ => ?_
  refine Triple.bind (R := fun _ => Host.Shows header (events ++ [.opened]))
    (.modify fun h hs => shows_doOpen hs impl) fun _ => ?_
  refine moves_bind (.reading _) hopened fun failed => .ite (fun _ => ?_) fun _ => ?_
  · exact .pure fun h hs => hs.mono hopened
  · exact moves_bind silent_implementation hopened hsync

theorem shows_writeSome (buffer : Bytes) :
    Triple (Host.Shows header events) (Asio.writeSome buffer)
      (fun _ h => ∃ n, h.Shows header (events ++ [.sent (buffer.take n)]))
      fun _ h => ∃ n, h.Shows header (events ++ [.sent (buffer.take n)]) := by
  unfold Asio.writeSome
  have hstill : ∀ h : Host, h.Shows header events →
      ∃ n, h.Shows header (events ++ [.sent (buffer.take n)]) := fun h hs => ⟨0, hs.more _⟩
  refine .bind (silent_implementation.mono (fun _ hs => hs) (fun _ _ hs => hs)
    fun _ => hstill) fun impl => .bind_reading fun sent => ?_
  match sent with
  | none => exact .throw hstill
  | some (n, ec, sends) =>
    refine Triple.bind_modify (fun h hs => ⟨hs.header, hs.trace⟩) fun _ => ?_
    refine .ite (fun _ => ?_) fun _ => .pure hstill
    refine Triple.bind (R := fun _ h => ∃ n, h.Shows header (events ++ [.sent (buffer.take n)]))
      (.modify fun h hs => ⟨n, hs.log _⟩) fun _ => .pure fun h hs => hs

end Operations

def Host.Exchanged (header : Bytes) (events : List Event) (h : Host) : Prop :=
  ∃ n, h.Shows header (events ++ [.sent (header.take n), .waitRead])

section Calls

variable {header : Bytes} {events : List Event}

theorem shows_exchange (fuel : Nat) :
    Triple (Host.Shows header events) (asioLayer.exchange fuel)
      (fun _ => Host.Exchanged header events) fun _ => Host.Exchanged header events := by
  have hwait : ∀ n, Moves header (events ++ [.sent (header.take n)])
      (events ++ [.sent (header.take n), .waitRead])
      (asioLayer.waitRead >>= fun _ => asioLayer.readLoop fuel []) := by
    intro n
    have hread : Silent header (events ++ [.sent (header.take n), .waitRead])
        (asioLayer.readLoop fuel []) :=
      preserves_readLoop (L := asioLayer) (fun h hs => ⟨hs.header, hs.trace⟩) silent_readSome
        fuel []
    have hmoves := @moves_waitRead header (events ++ [.sent (header.take n)])
    rw [List.append_assoc] at hmoves
    exact Triple.bind hmoves fun _ => hread.moves (List.Sublist.refl _)
  have hstopped : ∀ h : Host, (∃ n, h.Shows header (events ++ [.sent (header.take n)])) →
      h.Exchanged header events := by
    rintro h ⟨n, hs⟩
    have hmore := hs.more [.waitRead]
    rw [List.append_assoc] at hmore
    exact ⟨n, hmore⟩
  have hwrite : Triple (Host.Shows header events)
      (asioLayer.writeSome header >>= fun _ => asioLayer.waitRead >>= fun _ =>
        asioLayer.readLoop fuel [])
      (fun _ => Host.Exchanged header events) fun _ => Host.Exchanged header events := by
    refine Triple.bind ((shows_writeSome header).mono (fun _ hs => hs) (fun _ _ hs => hs)
      fun _ => hstopped) fun _ => .exists fun n => ?_
    exact (hwait n).mono (fun _ hs => hs) (fun _ _ hs => ⟨n, hs⟩) fun _ _ hs => ⟨n, hs⟩
  intro h hs
  unfold SocketLayer.exchange SocketLayer.reading
  rw [EStateM.run_bind, run_reading]
  have hheader : (asioLayer.client h).mHeader = header := hs.header
  dsimp only
  rw [hheader]
  exact hwrite h hs

theorem shows_readBytesFromSocket (fuel : Nat) :
    Triple (Host.Shows header events) (asioLayer.readBytesFromSocket fuel)
      (fun _ => Host.Exchanged header events) fun _ => Host.Exchanged header events := by
  have hidle : ∀ h : Host, h.Shows header events → h.Exchanged header events :=
    fun h hs => ⟨0, hs.more _⟩
  have hopen : Silent header events asioLayer.isOpen :=
    .bind silent_implementation fun impl => .pure _
  have hclose : Triple (Host.Exchanged header events) asioLayer.close
      (fun _ => Host.Exchanged header events) fun _ => Host.Exchanged header events :=
    .exists fun n => silent_close.mono (fun _ hs => hs) (fun _ _ hs => ⟨n, hs⟩)
      fun _ _ hs => ⟨n, hs⟩
  unfold SocketLayer.readBytesFromSocket SocketLayer.exchangeIfOpen
  refine Triple.bind (.bind (hopen.mono (fun _ hs => hs) (fun _ _ hs => hs)
    fun _ => hidle) fun opened => .ite (fun _ => shows_exchange fuel) fun _ => ?_)
    fun collected => .bind hclose fun _ => .pure fun h hs => hs
  exact .pure hidle

theorem shows_readFromSocket (fuel : Nat) :
    Triple (Host.Shows header events) (asioLayer.readFromSocket fuel)
      (fun _ => Host.Exchanged header events) fun _ => Host.Exchanged header events := by
  unfold SocketLayer.readFromSocket
  exact .bind (shows_readBytesFromSocket fuel) fun bytes => .pure fun h hs => hs

theorem shows_connectToFirst (endpoint : Endpoint) (rest : List Endpoint) :
    Moves header events (events ++ [.opened, .connect endpoint])
      (asioLayer.connectToFirst (endpoint :: rest)) := by
  unfold SocketLayer.connectToFirst
  refine moves_bind silent_newSocket (List.sublist_append_left _ _) fun _ => ?_
  refine Triple.bind (moves_connect endpoint) fun _ => ?_
  exact Triple.bind_reading fun failed => .pure fun h hs => hs

theorem shows_dialAndRead (fuel : Nat) (use : HttpContentData → Bytes) (endpoint : Endpoint)
    (rest : List Endpoint) :
    let dialled := events ++ [.opened, .connect endpoint]
    Triple (Host.Shows header events) (asioLayer.dialAndRead fuel use (endpoint :: rest))
      (fun _ => Host.Exchanged header dialled) fun _ => Host.Exchanged header dialled := by
  intro dialled
  have hstopped : ∀ v : Host, v.Shows header dialled → v.Exchanged header dialled :=
    fun v hs => ⟨0, hs.more _⟩
  have hconnect : Triple (Host.Shows header events)
      (asioLayer.connectToFirst (endpoint :: rest)) (fun _ => Host.Shows header dialled)
      fun _ => Host.Exchanged header dialled :=
    (shows_connectToFirst endpoint rest).mono (fun _ hs => hs) (fun _ _ hs => hs) fun _ => hstopped
  unfold SocketLayer.dialAndRead
  refine .bind hconnect fun connected => .ite (fun _ => ?_) fun _ => .pure hstopped
  exact .bind (shows_readFromSocket fuel) fun result => .pure fun v hs => hs

end Calls

/-- What a download may put on the network: at most once each, in this order, and nothing else.
It asks for one name, and has to do with the first endpoint only. -/
def DownloadTraffic (url : Bytes) (port : Int32) (endpoints : List Endpoint)
    (events : List Event) : Prop :=
  match prepare url .GET, endpoints with
  | .error _, _ => events = []
  | .ok (_, name), [] => events = [.resolve name port]
  | .ok (header, name), endpoint :: _ => ∃ n, events.Sublist
      [.resolve name port, .opened, .connect endpoint, .sent (header.take n), .waitRead]

def PublicCall.Traffic (mHeader : Bytes) (endpoints : List Endpoint) (events : List Event) :
    PublicCall → Prop
  | .call (.downloadString url port) => DownloadTraffic url port endpoints events
  | .call (.downloadByteData url port) => DownloadTraffic url port endpoints events
  | .call (.setBufferSize _) => events = []
  | .readBytesFromSocket => ∃ n, events.Sublist [.sent (mHeader.take n), .waitRead]
  | .readFromSocket => ∃ n, events.Sublist [.sent (mHeader.take n), .waitRead]
  | .getEndpointsFromString stringUrl port => events = [.resolve stringUrl port]

theorem download_traffic {h : Host} (hnone : h.trace = []) (fuel : Nat) (url : Bytes)
    (port : Int32) (use : HttpContentData → Bytes) :
    DownloadTraffic url port h.kernel.endpoints
      (endState ((asioLayer.download fuel url port use).run h)).trace := by
  unfold DownloadTraffic
  rw [asio_download_asked]
  cases prepare url .GET with
  | error e => exact hnone
  | ok request =>
    obtain ⟨header, name⟩ := request
    dsimp only
    have htrace : (h.asked header name port).trace = [.resolve name port] :=
      congrArg (· ++ [Event.resolve name port]) hnone
    have hshows : (h.asked header name port).Shows header [.resolve name port] := by
      refine ⟨rfl, ?_⟩
      rw [htrace]
    cases h.kernel.endpoints with
    | nil => exact htrace
    | cons endpoint rest =>
      obtain ⟨n, hs⟩ := (shows_dialAndRead fuel use endpoint rest _ hshows).endState
      exact ⟨n, hs.trace⟩

/-- Whatever the kernel does and wherever a call ends or hangs, it has put no more on the network
than its traffic. -/
theorem call_traffic (h : Host) (step : HostPublicStep) :
    step.call.Traffic h.client.mHeader step.kernel.endpoints
      (endState (h.execPublic step)).trace := by
  obtain ⟨call, kernel, fuel⟩ := step
  have hstart : (h.start kernel).Shows h.client.mHeader [] := ⟨rfl, List.Sublist.refl []⟩
  have hvalue : ∀ {α : Type} (p : EStateM Halt Host α) (f : α → PublicValue),
      (endState ((p >>= fun v => pure (f v)).run (h.start kernel))).trace =
        (endState (p.run (h.start kernel))).trace := by
    intro α p f
    exact Keeps.endState_bind (fun v => .pure (f v)) p (h.start kernel)
  unfold Host.execPublic SocketLayer.execPublic PublicCall.Traffic
  cases call with
  | call c =>
    dsimp only
    rw [hvalue]
    cases c with
    | downloadString url port =>
      exact @download_traffic (h.start kernel) rfl fuel url port
        fun result => getStringResult result.Body
    | downloadByteData url port =>
      exact @download_traffic (h.start kernel) rfl fuel url port fun result => result.Body
    | setBufferSize size => rfl
  | readBytesFromSocket =>
    obtain ⟨n, hs⟩ := (shows_readBytesFromSocket fuel (h.start kernel) hstart).endState
    dsimp only
    rw [hvalue]
    exact ⟨n, hs.trace⟩
  | readFromSocket =>
    obtain ⟨n, hs⟩ := (shows_readFromSocket fuel (h.start kernel) hstart).endState
    dsimp only
    rw [hvalue]
    exact ⟨n, hs.trace⟩
  | getEndpointsFromString stringUrl port =>
    dsimp only
    rw [hvalue, asio_getEndpointsFromString_run]
    rfl

end AsioClient
