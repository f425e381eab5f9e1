import AsioClient.ClientProgram

/-!
Runs of the client over any layer of sockets: how a request is prepared, what one round of the
receive loop does with what one read brings, and what the loop comes to over a stream that ends,
over one that does not, and without a buffer.
-/

set_option autoImplicit false

namespace AsioClient
open Imperative

/-- The header and the name to resolve, as `connectClient` computes them. -/
def prepare (url : Bytes) (type : RequestType) : Except Exn (Bytes × Bytes) := do
  let address ← checkURL url
  let header ← createHeaderRequest address type
  let parsedurl ← parseUrl address
  pure (header, parsedurl.headD address)

def endpointsOf : Except Failure (List Endpoint) → List Endpoint
  | .ok endpoints => endpoints
  | .error _ => []

theorem flatMap_rest (size : Nat) (seg : Segment) :
    (seg.rest size).flatMap Segment.bytes = seg.bytes.drop size := by
  unfold Segment.rest
  split
  · simp
  · rename_i h
    simpa using (not_not.1 h).symm

theorem vectorOfSize_of_pos {n : Int32} (h : 1 ≤ n.toInt) :
    ∃ size, vectorOfSize n = .ok size ∧ size ≠ 0 :=
  ⟨_, vectorOfSize_of_nonneg (by omega), by omega⟩

namespace SocketLayer

variable {σ : Type} {L : SocketLayer σ}

theorem getEndpointsFromString_run {name : Bytes} {port : Int32} {s t : σ}
    (resolving : Except Failure (List Endpoint))
    (hresolve : (L.resolve name port).run s =
      match resolving with
      | .ok endpoints => .ok endpoints t
      | .error e => .error (.threw (.systemError e.code)) t) :
    (L.getEndpointsFromString name port).run s =
      .ok (endpointsOf resolving) t := by
  unfold getEndpointsFromString
  rw [run_tryCatch, EStateM.run_bind, hresolve]
  cases resolving with
  | error e => rfl
  | ok endpoints =>
    cases endpoints with
    | nil => rfl
    | cons endpoint rest => rfl

def resolveAndConnect (L : SocketLayer σ) : EStateM Halt σ Bool := do
  let name ← L.reading (·.currentEndpointUrl)
  let mPort ← L.reading (·.mPort)
  let endpoints ← L.getEndpointsFromString name mPort
  L.connectToFirst endpoints

theorem connectClient_run (url : Bytes) (port : Int32) (type : RequestType) (s : σ) :
    (L.connectClient url port type).run s =
      match prepare url type with
      | .error e => .error (.threw e) s
      | .ok (header, name) =>
        L.resolveAndConnect.run (L.update (HttpClient.setRequest header name port) s) := by
  unfold connectClient prepare
  cases checkURL url with
  | error e => rfl
  | ok address =>
    cases hh : createHeaderRequest address type with
    | error e => simp [hh]
    | ok header =>
      cases hp : parseUrl address with
      | error e => simp [hh, hp]
      | ok parsed =>
        simp [hh, hp]
        rfl

structure Reads (L : SocketLayer σ) (size : Nat) (s : σ) : Prop where
  cleared : (L.client s).mErrorCode.isSet = false
  buffer : vectorOfSize (L.client s).mBufferSize = .ok size

theorem readLoop_set {s : σ} (hset : (L.client s).mErrorCode.isSet = true) (fuel : Nat)
    (collected : Bytes) : (L.readLoop (fuel + 1) collected).run s = .ok collected s := by
  simp only [readLoop, reading, EStateM.run_bind, run_reading, hset, ↓reduceIte]
  rfl

theorem readLoop_negative {s : σ} (hok : (L.client s).mErrorCode.isSet = false)
    (hneg : (L.client s).mBufferSize.toInt < 0) (fuel : Nat) (collected : Bytes) :
    (L.readLoop (fuel + 1) collected).run s = .error (.threw .lengthError) s := by
  simp only [readLoop, reading, EStateM.run_bind, run_reading, hok, Bool.false_eq_true, ↓reduceIte]
  rw [vectorOfSize_of_neg hneg]
  rfl

theorem readLoop_stopped {size : Nat} {s t : σ} (hs : L.Reads size s) {e : Halt}
    (hread : (L.readSome size).run s = .error e t) (fuel : Nat) (collected : Bytes) :
    (L.readLoop (fuel + 1) collected).run s = .error e t := by
  simp only [readLoop, reading, EStateM.run_bind, run_reading, hs.cleared, Bool.false_eq_true,
    ↓reduceIte]
  rw [hs.buffer]
  simp only [run_guarded_ok, hread]

/-- A read that fails ends the loop, whatever the error; one that brings nothing does not. -/
theorem readLoop_round {size : Nat} {s t : σ} (hs : L.Reads size s) {received : Bytes}
    (hread : (L.readSome size).run s = .ok received t) (fuel : Nat) (collected : Bytes) :
    (L.readLoop (fuel + 1) collected).run s =
      if (L.client t).mErrorCode.isSet then .ok collected (L.update HttpClient.clearErrorCode t)
      else (L.readLoop fuel (collected ++ received)).run t := by
  simp only [readLoop, reading, EStateM.run_bind, run_reading, hs.cleared, Bool.false_eq_true,
    ↓reduceIte]
  rw [hs.buffer]
  simp only [run_guarded_ok, hread]
  cases hset : (L.client t).mErrorCode.isSet with
  | true =>
    simp only [Bool.not_true, Bool.false_and, Bool.true_or, Bool.false_eq_true, ↓reduceIte]
    rfl
  | false =>
    have hnoteof := ErrorCode.beq_eof_of_not_isSet hset
    simp only [hnoteof, Bool.not_false, Bool.true_and, Bool.or_self, Bool.false_eq_true,
      ↓reduceIte, decide_eq_true_eq]
    cases received with
    | nil => simp
    | cons b rest => simp

/-- From the states of `Awaits` the given segments are still to come, and from those behind the
last one the loop comes to a state of `Ended`. -/
structure Delivery (L : SocketLayer σ) (size : Nat) (Awaits : List Segment → σ → Prop)
    (Ended : σ → Prop) : Prop where
  reads : ∀ {segs s}, Awaits segs s → L.Reads size s
  more : ∀ {seg later s}, Awaits (seg :: later) s → ∃ t,
    (L.readSome size).run s = .ok (seg.bytes.take size) t ∧ Awaits (seg.rest size ++ later) t
  last : ∀ {s}, Awaits [] s → ∃ received t, (L.readSome size).run s = .ok received t ∧
    (L.client t).mErrorCode.isSet = true ∧ Ended (L.update HttpClient.clearErrorCode t)

theorem Delivery.readLoop_run {size : Nat} {Awaits : List Segment → σ → Prop} {Ended : σ → Prop}
    (hd : L.Delivery size Awaits Ended) (hsize : size ≠ 0) {segs : List Segment} {s : σ}
    (hs : Awaits segs s) {fuel : Nat} (hfuel : (segs.flatMap Segment.bytes).length < fuel)
    (collected : Bytes) :
    ∃ t, (L.readLoop fuel collected).run s = .ok (collected ++ segs.flatMap Segment.bytes) t ∧
      Ended t := by
  -- on the fuel: every round but the last takes at least one of the bytes still to come
  induction fuel generalizing collected segs s with
  | zero => omega
  | succ fuel ih =>
    cases segs with
    | nil =>
      obtain ⟨received, t, hread, hset, hended⟩ := hd.last hs
      rw [readLoop_round (hd.reads hs) hread, if_pos hset, List.flatMap_nil, List.append_nil]
      exact ⟨_, rfl, hended⟩
    | cons seg later =>
      obtain ⟨t, hread, ht⟩ := hd.more hs
      have hno : ¬ (L.client t).mErrorCode.isSet = true := by simp [(hd.reads ht).cleared]
      have hpos := List.length_pos_iff.2 seg.nonempty
      have hbytes : (seg.rest size ++ later).flatMap Segment.bytes =
          seg.bytes.drop size ++ later.flatMap Segment.bytes := by
        rw [List.flatMap_append, flatMap_rest]
      have hshorter : ((seg.rest size ++ later).flatMap Segment.bytes).length < fuel := by
        rw [hbytes, List.length_append, List.length_drop]
        rw [List.flatMap_cons, List.length_append] at hfuel
        omega
      obtain ⟨u, hrun, hended⟩ := ih ht hshorter (collected ++ seg.bytes.take size)
      rw [readLoop_round (hd.reads hs) hread, if_neg hno, hrun, hbytes]
      refine ⟨u, ?_, hended⟩
      rw [List.flatMap_cons, List.append_assoc, ← List.append_assoc (seg.bytes.take size),
        List.take_append_drop]

/-- From the states of `P` a read never comes back, or it reports no error; either way it leaves
another one of them. -/
structure Endless (L : SocketLayer σ) (size : Nat) (P : σ → Prop) : Prop where
  reads : ∀ {s}, P s → L.Reads size s
  more : ∀ {s}, P s → ∃ t, P t ∧ ((L.readSome size).run s = .error .running t ∨
    ∃ received, (L.readSome size).run s = .ok received t)

theorem Endless.readLoop_run {size : Nat} {P : σ → Prop} (he : L.Endless size P) {s : σ}
    (hs : P s) (fuel : Nat) (collected : Bytes) :
    ∃ t, (L.readLoop fuel collected).run s = .error .running t ∧ P t := by
  induction fuel generalizing collected s with
  | zero => exact ⟨s, rfl, hs⟩
  | succ fuel ih =>
    obtain ⟨t, ht, hstops | ⟨received, hread⟩⟩ := he.more hs
    · exact ⟨t, readLoop_stopped (he.reads hs) hstops fuel collected, ht⟩
    · have hno : ¬ (L.client t).mErrorCode.isSet = true := by simp [(he.reads ht).cleared]
      rw [readLoop_round (he.reads hs) hread, if_neg hno]
      exact ih ht _

theorem keeps_readLoop {γ : Type} {f : σ → γ} (hread : ∀ size, Keeps f (L.readSome size))
    (hclear : ∀ s, f (L.update HttpClient.clearErrorCode s) = f s) (fuel : Nat)
    (collected : Bytes) : Keeps f (L.readLoop fuel collected) := by
  induction fuel generalizing collected with
  | zero => exact .throw _
  | succ fuel ih =>
    unfold readLoop
    refine .bind (.reading _) fun stopped => .ite (.pure _) ?_
    refine .bind (.reading _) fun mBufferSize => .bind (keeps_guarded f _) fun size => ?_
    refine .bind (hread size) fun received => .bind (.reading _) fun failed => ?_
    refine .bind (.reading _) fun ended => .ite (.bind (.modify hclear) fun _ => .pure _) (ih _)

/-- More fuel changes nothing unless the fuel was used up. -/
theorem outlasts_readLoop {fuel more : Nat} (hle : fuel ≤ more) (collected : Bytes) :
    Outlasts .running (L.readLoop fuel collected) (L.readLoop more collected) := by
  -- the two loops run in step until the shorter fuel is used up
  induction fuel generalizing more collected with
  | zero => exact .throw _ _
  | succ fuel ih =>
    obtain ⟨more, rfl⟩ : ∃ m, more = m + 1 := ⟨more - 1, by omega⟩
    unfold readLoop
    refine .bind (.refl _ _) fun stopped => .ite (.refl _ _) ?_
    refine .bind (.refl _ _) fun mBufferSize => .bind (.refl _ _) fun size => ?_
    refine .bind (.refl _ _) fun received => .bind (.refl _ _) fun failed => ?_
    exact .bind (.refl _ _) fun ended => .ite (.refl _ _) (ih (by omega) _)

theorem outlasts_readBytesFromSocket {fuel more : Nat} (hle : fuel ≤ more) :
    Outlasts .running (L.readBytesFromSocket fuel) (L.readBytesFromSocket more) := by
  unfold readBytesFromSocket exchangeIfOpen exchange
  refine .bind (.bind (.refl _ _) fun opened => .ite ?_ (.refl _ _)) fun _ => .refl _ _
  refine .bind (.refl _ _) fun mHeader => .bind (.refl _ _) fun _ => .bind (.refl _ _) fun _ => ?_
  exact outlasts_readLoop hle []

theorem outlasts_download {fuel more : Nat} (hle : fuel ≤ more) (url : Bytes) (port : Int32)
    (use : HttpContentData → Bytes) :
    Outlasts .running (L.download fuel url port use) (L.download more url port use) := by
  unfold download readFromSocket
  refine .bind (.refl _ _) fun connected => .ite (.bind ?_ fun _ => .refl _ _) (.refl _ _)
  exact .bind (outlasts_readBytesFromSocket hle) fun _ => .refl _ _

theorem outlasts_execPublic {fuel more : Nat} (hle : fuel ≤ more) (call : PublicCall) :
    Outlasts .running (L.execPublic fuel call) (L.execPublic more call) := by
  cases call with
  | call c =>
    refine .bind ?_ fun _ => .refl _ _
    cases c with
    | downloadString url port => exact outlasts_download hle url port _
    | downloadByteData url port => exact outlasts_download hle url port _
    | setBufferSize size => exact .refl _ _
  | readBytesFromSocket => exact .bind (outlasts_readBytesFromSocket hle) fun _ => .refl _ _
  | readFromSocket =>
    refine .bind (.bind ?_ fun _ => .refl _ _) fun _ => .refl _ _
    exact outlasts_readBytesFromSocket hle
  | getEndpointsFromString stringUrl port => exact .refl _ _

end SocketLayer

end AsioClient
