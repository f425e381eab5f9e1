import AsioClient.AsioRuns
import AsioClient.ImperativeTriples

/-!
All public functions of the client that touch a socket, in any order. What the operations of a
layer keep, every public function over it keeps; over asio it comes down to what happens to the
pointer, the sockets and the descriptors.
-/

set_option autoImplicit false

namespace AsioClient
open Imperative

/-- Kept by every operation, and by changes of the client that leave its pointer alone. -/
structure LayerInvariant {σ : Type} (L : SocketLayer σ) (P : σ → Prop) : Prop where
  update : ∀ {f : HttpClient → HttpClient}, (∀ c, (f c).mSocket = c.mSocket) →
    ∀ s, P s → P (L.update f s)
  newSocket : Preserves P L.newSocket
  resolve : ∀ name port, Preserves P (L.resolve name port)
  isOpen : Preserves P L.isOpen
  connect : ∀ endpoint, Preserves P (L.connect endpoint)
  writeSome : ∀ buffer, Preserves P (L.writeSome buffer)
  waitRead : Preserves P L.waitRead
  readSome : ∀ size, Preserves P (L.readSome size)
  close : Preserves P L.close

section Layers

variable {σ : Type} {L : SocketLayer σ} {P : σ → Prop}

theorem preserves_guarded {α : Type} (r : Except Exn α) :
    Preserves P (guarded r : EStateM Halt σ α) := by
  cases r with
  | ok a => exact .pure a
  | error e => exact .throw _

theorem preserves_reading {α : Type} (f : HttpClient → α) : Preserves P (L.reading f) :=
  .reading _

theorem preserves_readLoop
    (hclear : ∀ s, P s → P (L.update HttpClient.clearErrorCode s))
    (hread : ∀ size, Preserves P (L.readSome size)) (fuel : Nat) (collected : Bytes) :
    Preserves P (L.readLoop fuel collected) := by
  induction fuel generalizing collected with
  | zero => exact .throw _
  | succ fuel ih =>
    unfold SocketLayer.readLoop
    refine .bind (preserves_reading _) fun stopped => .ite (.pure _) ?_
    refine .bind (preserves_reading _) fun mBufferSize => ?_
    refine .bind (preserves_guarded _) fun size => .bind (hread size) fun received => ?_
    refine .bind (preserves_reading _) fun failed => .bind (preserves_reading _) fun ended => ?_
    exact .ite (.bind (.modify hclear) fun _ => .pure _) (ih _)

namespace LayerInvariant

theorem preserves_getEndpointsFromString (I : LayerInvariant L P) (name : Bytes)
    (port : Int32) : Preserves P (L.getEndpointsFromString name port) := by
  unfold SocketLayer.getEndpointsFromString
  refine .tryCatch (.bind (I.resolve name port) fun endpoints => ?_) fun e => ?_
  · exact .ite (.pure _) (.pure _)
  · cases e with
    | threw exn =>
      cases exn with
      | systemError code => exact .pure []
      | outOfRange => exact .throw _
      | lengthError => exact .throw _
    | running => exact .throw _
    | undefined => exact .throw _

theorem preserves_connectToFirst (I : LayerInvariant L P) (endpoints : List Endpoint) :
    Preserves P (L.connectToFirst endpoints) := by
  unfold SocketLayer.connectToFirst
  cases endpoints with
  | nil => exact .pure false
  | cons endpoint rest =>
    refine .bind I.newSocket fun _ => .bind (I.connect endpoint) fun _ => ?_
    exact .bind (preserves_reading _) fun failed => .pure _

theorem preserves_connectClient (I : LayerInvariant L P) (url : Bytes) (port : Int32)
    (type : RequestType) : Preserves P (L.connectClient url port type) := by
  unfold SocketLayer.connectClient
  refine .bind (preserves_guarded _) fun url => .bind (preserves_guarded _) fun header => ?_
  refine .bind (preserves_guarded _) fun parsed => ?_
  refine .bind (.modify (I.update fun _ => rfl)) fun _ => ?_
  refine .bind (preserves_reading _) fun name => .bind (preserves_reading _) fun mPort => ?_
  refine .bind (I.preserves_getEndpointsFromString name mPort) fun endpoints => ?_
  exact I.preserves_connectToFirst endpoints

theorem preserves_readBytesFromSocket (I : LayerInvariant L P) (fuel : Nat) :
    Preserves P (L.readBytesFromSocket fuel) := by
  have hloop : Preserves P (L.readLoop fuel []) :=
    preserves_readLoop (I.update fun _ => rfl) I.readSome fuel []
  have hexchange : Preserves P (L.exchange fuel) := by
    unfold SocketLayer.exchange
    refine .bind (preserves_reading _) fun mHeader => .bind (I.writeSome mHeader) fun _ => ?_
    exact .bind I.waitRead fun _ => hloop
  unfold SocketLayer.readBytesFromSocket SocketLayer.exchangeIfOpen
  refine .bind (.bind I.isOpen fun opened => .ite hexchange (.pure [])) fun collected => ?_
  exact .bind I.close fun _ => .pure collected

theorem preserves_readFromSocket (I : LayerInvariant L P) (fuel : Nat) :
    Preserves P (L.readFromSocket fuel) := by
  unfold SocketLayer.readFromSocket
  exact .bind (I.preserves_readBytesFromSocket fuel) fun bytes => .pure _

theorem preserves_download (I : LayerInvariant L P) (fuel : Nat) (url : Bytes) (port : Int32)
    (use : HttpContentData → Bytes) : Preserves P (L.download fuel url port use) := by
  unfold SocketLayer.download
  refine .bind (I.preserves_connectClient url port .GET) fun connected => .ite ?_ (.pure [])
  exact .bind (I.preserves_readFromSocket fuel) fun result => .pure _

theorem preserves_execPublic (I : LayerInvariant L P) (fuel : Nat) (call : PublicCall) :
    Preserves P (L.execPublic fuel call) := by
  cases call with
  | call c =>
    refine .bind ?_ fun v => .pure _
    cases c with
    | downloadString url port => exact I.preserves_download fuel url port _
    | downloadByteData url port => exact I.preserves_download fuel url port _
    | setBufferSize size => exact .bind (.modify (I.update fun _ => rfl)) fun _ => .pure []
  | readBytesFromSocket => exact .bind (I.preserves_readBytesFromSocket fuel) fun v => .pure _
  | readFromSocket => exact .bind (I.preserves_readFromSocket fuel) fun v => .pure _
  | getEndpointsFromString stringUrl port =>
    exact .bind (I.preserves_getEndpointsFromString stringUrl port) fun v => .pure _

end LayerInvariant

end Layers

/-- The changes that asio's operations make of pointer, sockets and descriptors. -/
structure HostInvariant (P : Host → Prop) : Prop where
  ledger : ∀ {h h' : Host}, P h → h'.ledger = h.ledger → P h'
  newSocket : ∀ {h}, P h → P h.newSocket
  setOpen : ∀ {h : Host} {impl : SocketImpl} (s : Nat), P h → h.impl? = some impl →
    impl.socket = none → P { h.setImpl ⟨some s, .stream⟩ with descriptors := s :: h.descriptors }
  setClosed : ∀ {h : Host} {impl : SocketImpl} {s : Nat}, P h → h.impl? = some impl →
    impl.socket = some s → P { h.setImpl .construct with descriptors := h.descriptors.erase s }
  construct : ∀ {h : Host} {impl : SocketImpl}, P h → h.impl? = some impl →
    impl.socket = none → P (h.setImpl .construct)

namespace HostInvariant

variable {P : Host → Prop}

theorem doOpen (I : HostInvariant P) {h : Host} {impl : SocketImpl} (hp : P h)
    (himpl : h.impl? = some impl) : P (h.doOpen impl) := by
  unfold Host.doOpen
  cases hs : impl.socket with
  | some s =>
    have hopen : impl.isOpen = true := by simp [SocketImpl.isOpen, hs]
    rw [if_pos hopen]
    exact I.ledger hp rfl
  | none =>
    have hclosed : ¬ impl.isOpen = true := by simp [SocketImpl.isOpen, hs]
    rw [if_neg hclosed]
    unfold socketOp
    cases h.kernel.socket with
    | error e => exact I.ledger hp rfl
    | ok s =>
      dsimp only
      split
      · exact I.ledger hp rfl
      · exact I.ledger (I.setOpen s hp himpl hs) rfl

theorem triple_implementation :
    Triple P Asio.implementation (fun impl h => P h ∧ h.impl? = some impl)
      fun _ => P := by
  intro h hp
  unfold Asio.implementation
  rw [EStateM.run_bind, run_reading]
  dsimp only
  cases himpl : h.impl? with
  | none => exact hp
  | some impl => exact ⟨hp, himpl⟩

theorem preserves_implementation : Preserves P Asio.implementation :=
  triple_implementation.mono (fun _ hp => hp) (fun _ _ hp => hp.1) fun _ _ hp => hp

theorem preserves_same (I : HostInvariant P) {f : Host → Host}
    (hf : ∀ h, (f h).ledger = h.ledger) : Preserves P (modify f : EStateM Halt Host PUnit) :=
  .modify fun h hp => I.ledger hp (hf h)

theorem preserves_resolve (I : HostInvariant P) (name : Bytes) (port : Int32) :
    Preserves P (Asio.resolve name port) := by
  unfold Asio.resolve
  refine .bind (I.preserves_same fun _ => rfl) fun _ => .bind (.reading _) fun reply => ?_
  exact .ite (.throw _) (.pure _)

theorem preserves_newSocket (I : HostInvariant P) : Preserves P Asio.newSocket := by
  unfold Asio.newSocket Asio.useReactor
  refine .bind (.bind (.reading _) fun made => .ite (.pure ()) ?_) fun _ =>
    .modify fun h hp => I.newSocket hp
  refine .bind (.reading _) fun reply => ?_
  cases reply with
  | ok done => exact I.preserves_same fun _ => rfl
  | error e => exact .throw _

theorem preserves_connect (I : HostInvariant P) (endpoint : Endpoint) :
    Preserves P (Asio.connect endpoint) := by
  have hsync : ∀ impl, Preserves P (Asio.syncConnect endpoint impl) := by
    intro impl
    unfold Asio.syncConnect
    refine .bind (I.preserves_same fun _ => rfl) fun _ => .bind (.reading _) fun result => ?_
    cases result with
    | none => exact .throw _
    | some ec => exact I.preserves_same fun _ => rfl
  unfold Asio.connect
  refine Triple.bind triple_implementation fun impl => ?_
  refine .ite (fun _ => (hsync impl).mono (fun _ hp => hp.1) (fun _ _ hp => hp)
    fun _ _ hp => hp) fun _ => ?_
  refine Triple.bind (R := fun _ => P) (.modify fun h hp => I.doOpen hp.1 hp.2) fun _ => ?_
  refine Preserves.bind (.reading _) fun failed => .ite (.pure _) ?_
  exact .bind preserves_implementation hsync

theorem preserves_writeSome (I : HostInvariant P) (buffer : Bytes) :
    Preserves P (Asio.writeSome buffer) := by
  unfold Asio.writeSome
  refine .bind preserves_implementation fun impl => .bind (.reading _) fun sent => ?_
  match sent with
  | none => exact .throw _
  | some (n, ec, sends) =>
    refine .bind (I.preserves_same fun _ => rfl) fun _ => .ite ?_ (.pure n)
    exact .bind (I.preserves_same fun _ => rfl) fun _ => .pure n

theorem preserves_waitRead (I : HostInvariant P) : Preserves P Asio.waitRead := by
  unfold Asio.waitRead
  refine .bind preserves_implementation fun impl => .bind (I.preserves_same fun _ => rfl) ?_
  refine fun _ => .bind (.reading _) fun wait => ?_
  cases pollRead impl.socket impl.state wait .cleared with
  | none => exact .throw _
  | some r => exact .ite (.throw _) (.pure _)

theorem preserves_readSome (I : HostInvariant P) (size : Nat) :
    Preserves P (Asio.readSome size) := by
  unfold Asio.readSome
  refine .bind preserves_implementation fun impl => .bind (.reading _) fun received => ?_
  match received with
  | none => exact .throw _
  | some (bytes, ec, recvs) =>
    exact .bind (I.preserves_same fun _ => rfl) fun _ => .pure bytes

theorem preserves_close (I : HostInvariant P) : Preserves P Asio.close := by
  unfold Asio.close
  refine Triple.bind triple_implementation fun impl => ?_
  cases hs : impl.socket with
  | none => exact .modify fun h hp => I.construct hp.1 hp.2 hs
  | some s =>
    refine .bind_reading fun reply => ?_
    refine Triple.bind (R := fun _ => P) (.modify fun h hp => I.setClosed hp.1 hp.2 hs) fun _ => ?_
    exact Preserves.ite (.throw _) (.pure _)

theorem layer (I : HostInvariant P) : LayerInvariant asioLayer P where
  update hf h hp := I.ledger hp (congrArg (·, h.impls, h.descriptors) (hf h.client))
  newSocket := I.preserves_newSocket
  resolve := I.preserves_resolve
  isOpen := .bind preserves_implementation fun _ => .pure _
  connect := I.preserves_connect
  writeSome := I.preserves_writeSome
  waitRead := I.preserves_waitRead
  readSome := I.preserves_readSome
  close := I.preserves_close

end HostInvariant

namespace HostInvariant

variable {P : Host → Prop}

theorem execPublic (I : HostInvariant P) {h : Host} (hp : P h) (step : HostPublicStep) :
    Result (fun _ => P) (fun _ => P) (h.execPublic step) :=
  I.layer.preserves_execPublic step.fuel step.call (h.start step.kernel) (I.ledger hp rfl)

theorem afterAllPublic (I : HostInvariant P) {h h' : Host} {steps : List HostPublicStep}
    (hp : P h) (hrun : h.afterAllPublic steps = some h') : P h' := by
  induction steps generalizing h with
  | nil =>
    obtain rfl := Option.some.inj hrun
    exact hp
  | cons step rest ih =>
    unfold Host.afterAllPublic at hrun
    rw [List.foldlM_cons] at hrun
    obtain ⟨v, hv, hrest⟩ := Option.bind_eq_some_iff.1 hrun
    exact ih ((I.execPublic hp step).cameBack hv) hrest

end HostInvariant

end AsioClient
