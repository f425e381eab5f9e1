import AsioClient.ClientProgram
import AsioClient.ProgramRefinement

/-!
One layer of sockets refines another when its operations do, and then so does the client over
it. What has to match shrinks as a call goes on: once the request is written the answers to a
write no longer matter, and once the stream has ended neither do those to a read.
-/

set_option autoImplicit false

namespace AsioClient
open Imperative

/-- Error codes that report the same; a success is the same in every category. -/
def SameReport (a b : ErrorCode) : Prop := a = b ∨ a.isSet = false ∧ b.isSet = false

namespace SameReport

variable {a b : ErrorCode}

theorem refl (a : ErrorCode) : SameReport a a := .inl rfl

theorem of_not_isSet (ha : a.isSet = false) (hb : b.isSet = false) : SameReport a b :=
  .inr ⟨ha, hb⟩

theorem isSet_eq (h : SameReport a b) : a.isSet = b.isSet := by
  rcases h with rfl | ⟨ha, hb⟩
  · rfl
  · rw [ha, hb]

theorem eq_of_isSet (h : SameReport a b) (ha : a.isSet = true) : a = b := by
  rcases h with rfl | ⟨hno, -⟩
  · rfl
  · rw [ha] at hno
    cases hno

theorem stops_eq (h : SameReport a b) : (a.isSet || a == .eof) = (b.isSet || b == .eof) := by
  rcases h with rfl | ⟨ha, hb⟩
  · rfl
  · rw [ha, hb, ErrorCode.beq_eof_of_not_isSet ha, ErrorCode.beq_eof_of_not_isSet hb]

end SameReport

structure SameClient (c d : HttpClient) : Prop where
  port : c.mPort = d.mPort
  buffer : c.mBufferSize = d.mBufferSize
  url : c.currentEndpointUrl = d.currentEndpointUrl
  header : c.mHeader = d.mHeader
  error : SameReport c.mErrorCode d.mErrorCode
  socket : c.mSocket = d.mSocket

/-- An update of the members that does not tell two successes apart. -/
def Harmless (f : HttpClient → HttpClient) : Prop :=
  ∀ c d, SameClient c d → SameClient (f c) (f d)

theorem harmless_setRequest (header endpointUrl : Bytes) (port : Int32) :
    Harmless (HttpClient.setRequest header endpointUrl port) :=
  fun _ _ h => ⟨rfl, h.buffer, rfl, rfl, h.error, h.socket⟩

theorem harmless_clearErrorCode : Harmless HttpClient.clearErrorCode :=
  fun _ _ h => ⟨h.port, h.buffer, h.url, h.header, .refl _, h.socket⟩

theorem harmless_setBufferSize (size : Int32) : Harmless (HttpClient.setBufferSize size) :=
  fun _ _ h => ⟨h.port, rfl, h.url, h.header, h.error, h.socket⟩

/-- Related states before the request is written, until the stream ends, and from then on. -/
structure LayerRefinement {σ τ : Type} (L : SocketLayer σ) (M : SocketLayer τ) where
  before : σ → τ → Prop
  during : σ → τ → Prop
  after : σ → τ → Prop
  written : ∀ {s t}, before s t → during s t
  ended : ∀ {s t}, during s t → after s t
  sameClient : ∀ {s t}, after s t → SameClient (L.client s) (M.client t)
  update_before : ∀ {f s t}, Harmless f → before s t → before (L.update f s) (M.update f t)
  update_after : ∀ {f s t}, Harmless f → after s t → after (L.update f s) (M.update f t)
  newSocket : Refines before L.newSocket M.newSocket (fun _ => before) after
  resolve : ∀ name port,
    Refines before (L.resolve name port) (M.resolve name port) (fun _ => before) before
  isOpen : Refines before L.isOpen M.isOpen (fun _ => before) after
  connect : ∀ endpoint,
    Refines before (L.connect endpoint) (M.connect endpoint) (fun _ => before) after
  writeSome : ∀ buffer,
    Refines before (L.writeSome buffer) (M.writeSome buffer) (fun _ => during) after
  waitRead : Refines during L.waitRead M.waitRead (fun _ => during) after
  readSome : ∀ size, Refines during (L.readSome size) (M.readSome size)
    (fun _ s t => after s t ∧ ((L.client s).mErrorCode.isSet = false → during s t)) after
  close : Refines after L.close M.close (fun _ => after) after

namespace LayerRefinement

variable {σ τ : Type} {L : SocketLayer σ} {M : SocketLayer τ} (H : LayerRefinement L M)
variable {R : σ → τ → Prop}

theorem refines_guarded {α : Type} {E : σ → τ → Prop} (hR : ∀ s t, R s t → E s t)
    (r : Except Exn α) :
    Refines R (guarded r) (guarded r) (fun _ => R) E := by
  cases r with
  | ok a => exact .pure fun s t h => h
  | error e => exact .throw hR

theorem refines_reading {α : Type} {f : HttpClient → α} {E : σ → τ → Prop}
    (hR : ∀ s t, R s t → H.after s t) (hf : ∀ c d, SameClient c d → f c = f d) :
    Refines R (L.reading f) (M.reading f) (fun _ => R) E := by
  intro s t hst
  have hsame := hf _ _ (H.sameClient (hR s t hst))
  unfold SocketLayer.reading
  rw [run_reading, run_reading, hsame]
  exact .returned hst

theorem refines_getEndpointsFromString (name : Bytes) (port : Int32) :
    Refines H.before (L.getEndpointsFromString name port) (M.getEndpointsFromString name port)
      (fun _ => H.before) H.before := by
  unfold SocketLayer.getEndpointsFromString
  refine .tryCatch (.bind (H.resolve name port) fun endpoints => ?_) fun e => ?_
  · exact .ite (fun _ => .pure fun s t h => h) fun _ => .pure fun s t h => h
  · cases e with
    | threw exn =>
      cases exn with
      | systemError code => exact .pure fun s t h => h
      | outOfRange => exact .throw fun s t h => h
      | lengthError => exact .throw fun s t h => h
    | running => exact .throw fun s t h => h
    | undefined => exact .throw fun s t h => h

theorem refines_connectClient (url : Bytes) (port : Int32) (type : RequestType) :
    Refines H.before (L.connectClient url port type) (M.connectClient url port type)
      (fun _ => H.before) H.after := by
  have hafter : ∀ s t, H.before s t → H.after s t := fun s t h => H.ended (H.written h)
  unfold SocketLayer.connectClient
  refine .bind (refines_guarded hafter _) fun url => ?_
  refine .bind (refines_guarded hafter _) fun header => ?_
  refine .bind (refines_guarded hafter _) fun parsed => ?_
  refine .bind (S := fun _ => H.before)
    (.modify fun s t h => H.update_before (harmless_setRequest _ _ _) h) fun _ => ?_
  refine .bind (H.refines_reading hafter fun c d h => h.url) fun name => ?_
  refine .bind (H.refines_reading hafter fun c d h => h.port) fun mPort => ?_
  refine .bind ((H.refines_getEndpointsFromString name mPort).mono (fun _ _ h => h)
    (fun _ _ _ h => h) hafter) fun endpoints => ?_
  unfold SocketLayer.connectToFirst
  cases endpoints with
  | nil => exact .pure fun s t h => h
  | cons endpoint rest =>
    refine .bind H.newSocket fun _ => .bind (H.connect endpoint) fun _ => ?_
    refine .bind (H.refines_reading hafter fun c d h => h.error.isSet_eq) fun failed => ?_
    exact .pure fun s t h => h

/-- The loop ends where the stream does, or where no read has failed so far. -/
theorem refines_readLoop (fuel : Nat) (collected : Bytes) :
    Refines H.during (L.readLoop fuel collected) (M.readLoop fuel collected)
      (fun _ => H.after) H.after := by
  induction fuel generalizing collected with
  | zero => exact .throw fun s t h => H.ended h
  | succ fuel ih =>
    have hended : ∀ s t, H.during s t → H.after s t := fun s t h => H.ended h
    unfold SocketLayer.readLoop
    refine .bind (H.refines_reading hended fun c d h => h.error.isSet_eq) fun stopped => ?_
    refine .ite (fun _ => .pure hended) fun _ => ?_
    refine .bind (H.refines_reading hended fun c d h => h.buffer) fun mBufferSize => ?_
    refine .bind (refines_guarded hended _) fun size => .bind (H.readSome size) fun received => ?_
    refine .bind (H.refines_reading (fun s t h => h.1) fun c d h => h.error.isSet_eq)
      fun failed => ?_
    refine .bind (S := fun ended s t => H.after s t ∧ (ended = false → H.during s t)) ?_
      fun ended => ?_
    · intro s t hst
      have hsame := SameReport.stops_eq (H.sameClient hst.1).error
      simp only [SocketLayer.reading, run_reading, hsame]
      refine .returned ⟨hst.1, fun hno => hst.2 ?_⟩
      rw [← hsame] at hno
      exact (Bool.or_eq_false_iff.1 hno).1
    · refine .ite (fun _ => ?_) fun hno => ?_
      · refine .bind (S := fun _ => H.after)
          (.modify fun s t h => H.update_after harmless_clearErrorCode h.1) fun _ => ?_
        exact .pure fun s t h => h
      · refine (ih _).mono (fun s t h => h.2 ?_) (fun _ _ _ h => h) (fun _ _ h => h)
        simpa using hno

theorem refines_readBytesFromSocket (fuel : Nat) :
    Refines H.before (L.readBytesFromSocket fuel) (M.readBytesFromSocket fuel)
      (fun _ => H.after) H.after := by
  have hafter : ∀ s t, H.before s t → H.after s t := fun s t h => H.ended (H.written h)
  unfold SocketLayer.readBytesFromSocket SocketLayer.exchangeIfOpen SocketLayer.exchange
  refine .bind (S := fun _ => H.after) ?_ fun collected => ?_
  · refine .bind H.isOpen fun opened => .ite (fun _ => ?_) fun _ => .pure hafter
    refine .bind (H.refines_reading hafter fun c d h => h.header) fun mHeader => ?_
    refine .bind (H.writeSome mHeader) fun _ => .bind H.waitRead fun _ => ?_
    exact H.refines_readLoop fuel []
  · exact .bind H.close fun _ => .pure fun s t h => h

theorem refines_readFromSocket (fuel : Nat) :
    Refines H.before (L.readFromSocket fuel) (M.readFromSocket fuel)
      (fun _ => H.after) H.after :=
  .bind (H.refines_readBytesFromSocket fuel) fun _ => .pure fun _ _ h => h

theorem refines_download (fuel : Nat) (url : Bytes) (port : Int32)
    (use : HttpContentData → Bytes) :
    Refines H.before (L.download fuel url port use) (M.download fuel url port use)
      (fun _ => H.after) H.after := by
  unfold SocketLayer.download
  refine .bind (H.refines_connectClient url port .GET) fun connected => ?_
  refine .ite (fun _ => ?_) fun _ => .pure fun s t h => H.ended (H.written h)
  exact .bind (H.refines_readFromSocket fuel) fun result => .pure fun s t h => h

theorem refines_execPublic (fuel : Nat) (call : PublicCall) :
    Refines H.before (L.execPublic fuel call) (M.execPublic fuel call)
      (fun _ => H.after) H.after := by
  have hafter : ∀ s t, H.before s t → H.after s t := fun s t h => H.ended (H.written h)
  cases call with
  | call c =>
    refine .bind (S := fun _ => H.after) ?_ fun v => .pure fun s t h => h
    cases c with
    | downloadString url port => exact H.refines_download fuel url port _
    | downloadByteData url port => exact H.refines_download fuel url port _
    | setBufferSize size =>
      refine .bind (S := fun _ => H.after) (.modify fun s t h => ?_) fun _ => .pure fun s t h => h
      exact hafter _ _ (H.update_before (harmless_setBufferSize size) h)
  | readBytesFromSocket =>
    exact .bind (H.refines_readBytesFromSocket fuel) fun v => .pure fun s t h => h
  | readFromSocket =>
    exact .bind (H.refines_readFromSocket fuel) fun v => .pure fun s t h => h
  | getEndpointsFromString stringUrl port =>
    refine .bind ?_ fun v => .pure hafter
    exact (H.refines_getEndpointsFromString stringUrl port).mono (fun _ _ h => h)
      (fun _ _ _ h => h) hafter

end LayerRefinement

end AsioClient
