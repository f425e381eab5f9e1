import AsioClient.ClientRuns
import AsioClient.HttpClient

/-!
What `ReadFromSocket` makes of the bytes that arrive: however the network cuts them into
segments and whatever the size of the buffer, the response is the same.
-/

set_option autoImplicit false

namespace AsioClient
open FirstOccurrence Imperative

def NetworkScript.stream (net : NetworkScript) : Bytes := net.reads.flatMap Segment.bytes

/-- The world once the receive loop has seen the end and cleared the error code. -/
def World.drained (w : World) : World :=
  { w.setErrorCode .cleared with net := { w.net with reads := [] } }

def World.Arriving (w : World) (segs : List Segment) (v : World) : Prop :=
  ∃ ec, ec.isSet = false ∧ v = { w.setErrorCode ec with net := { w.net with reads := segs } }

theorem scripted_delivery {w : World} {size : Nat} (hopen : w.socket? = some ⟨true⟩)
    (hvec : vectorOfSize w.client.mBufferSize = .ok size) (hsize : size ≠ 0) :
    scriptedLayer.Delivery size w.Arriving (· = w.drained) where
  reads := by
    rintro segs v ⟨ec, hok, rfl⟩
    exact ⟨hok, hvec⟩
  more := by
    rintro seg later v ⟨ec, hok, rfl⟩
    exact ⟨_, readSome_run (by exact hopen) hsize, ec.succeed, ErrorCode.isSet_succeed ec, rfl⟩
  last := by
    rintro v ⟨ec, hok, rfl⟩
    exact ⟨[], _, readSome_run (by exact hopen) hsize, w.net.ending.isSet, rfl⟩

theorem readLoop_run (fuel : Nat) (collected : Bytes) {w : World} {size : Nat}
    (hopen : w.socket? = some ⟨true⟩) (hok : w.client.mErrorCode.isSet = false)
    (hvec : vectorOfSize w.client.mBufferSize = .ok size) (hsize : size ≠ 0)
    (hfuel : w.net.stream.length < fuel) :
    (readLoop fuel collected).run w = .ok (collected ++ w.net.stream) w.drained := by
  have hstart : w.Arriving w.net.reads w := ⟨_, hok, rfl⟩
  obtain ⟨after, hrun, rfl⟩ :=
    (scripted_delivery hopen hvec hsize).readLoop_run hsize hstart hfuel collected
  exact hrun

/-- `f` does not look at the error code or at the segments still to come. -/
def IgnoresReads {γ : Type} (f : World → γ) : Prop :=
  ∀ w ec reads, f { w.setErrorCode ec with net := { w.net with reads := reads } } = f w

section Frames

variable {γ : Type} {f : World → γ}

theorem keeps_isOpen (f : World → γ) : Keeps f isOpen := by
  unfold isOpen
  refine .bind (.reading _) fun s => ?_
  cases s with
  | none => exact .throw _
  | some s => exact .pure _

theorem keeps_readSome (hf : IgnoresReads f) (size : Nat) : Keeps f (readSome size) := by
  unfold readSome
  refine .bind (keeps_isOpen f) fun opened => .ite ?_ (.ite ?_ ?_)
  · exact .bind (.modify fun w => hf w badDescriptor w.net.reads) fun _ => .pure _
  · exact .bind (.modify fun w => hf w w.client.mErrorCode.succeed w.net.reads) fun _ => .pure _
  · refine .bind (.reading _) fun reads => ?_
    cases reads with
    | nil => exact .bind (.modify fun w => hf w w.net.ending.code w.net.reads) fun _ => .pure _
    | cons seg later =>
      exact .bind (.modify fun w => hf w w.client.mErrorCode.succeed (seg.rest size ++ later))
        fun _ => .pure _

theorem keeps_readLoop (hf : IgnoresReads f) (fuel : Nat) (collected : Bytes) :
    Keeps f (readLoop fuel collected) :=
  SocketLayer.keeps_readLoop (keeps_readSome hf) (fun w => hf w .cleared w.net.reads) fuel collected

end Frames

structure Ready (w : World) : Prop where
  opened : w.socket? = some ⟨true⟩
  written : ∀ e rest, w.net.writes ≠ .fails e :: rest
  waited : w.net.waiting = none

theorem Ready.exchange_eq {w : World} (hr : Ready w) :
    ∃ ec rest events, ec.isSet = false ∧
      ∀ fuel, (exchange fuel).run w = (readLoop fuel []).run (w.wrote ec rest events) := by
  obtain ⟨n, ec, rest, events, hwrite, hok⟩ :=
    writeSome_accepted hr.opened hr.written w.client.mHeader
  have hwait : (w.wrote ec rest events).net.waiting = none := hr.waited
  have hlog : (w.wrote ec rest events).log .waitRead =
      w.wrote ec rest (events ++ [.waitRead]) := by
    simp [World.wrote, World.log]
  refine ⟨ec, rest, events ++ [.waitRead], hok, ?_⟩
  intro fuel
  unfold exchange SocketLayer.exchange SocketLayer.reading
  simp only [EStateM.run_bind, run_reading, hwrite]
  rw [waitRead_run (w := w.wrote ec rest events) hr.opened, hwait, ← hlog]

theorem exchange_run {w : World} {fuel : Nat} (hr : Ready w)
    (hbuffer : 1 ≤ w.client.mBufferSize.toInt) (hfuel : w.net.stream.length < fuel) :
    ∃ ec rest events,
      (exchange fuel).run w = .ok w.net.stream (w.wrote ec rest events).drained := by
  obtain ⟨ec, rest, events, hok, hexchange⟩ := hr.exchange_eq
  have hvec := vectorOfSize_of_nonneg (n := w.client.mBufferSize) (by omega)
  have hsize : w.client.mBufferSize.toInt.toNat ≠ 0 := by omega
  have hloop := readLoop_run fuel [] (w := w.wrote ec rest events) hr.opened hok hvec hsize hfuel
  exact ⟨ec, rest, events, (hexchange fuel).trans hloop⟩

/-- The write and the wait succeed, and `stream` is all that arrives. A segment that fits the
buffer is one read, a longer one is several. -/
structure Arrives (w : World) (stream : Bytes) : Prop extends Ready w where
  buffer : 1 ≤ w.client.mBufferSize.toInt
  received : w.net.stream = stream
  ended : w.net.ending = .eof

structure Delivers (w : World) (stream : Bytes) : Prop extends Arrives w stream where
  closed : w.net.closing = none

theorem readBytesFromSocket_run {w : World} {stream : Bytes} {fuel : Nat}
    (hd : Delivers w stream) (hfuel : stream.length < fuel) :
    ∃ after, (readBytesFromSocket fuel).run w = .ok stream after ∧
      after.client.mErrorCode = .cleared ∧ after.socket? = some ⟨false⟩ := by
  obtain ⟨ec, rest, events, hexchange⟩ :=
    exchange_run hd.toReady hd.buffer (by rwa [hd.received])
  rw [hd.received] at hexchange
  have hopen : (w.wrote ec rest events).drained.socket? = some ⟨true⟩ := hd.opened
  have hclosing : (w.wrote ec rest events).drained.net.closing = none := hd.closed
  refine ⟨(w.wrote ec rest events).drained.setOpen false, ?_, ?_,
    World.socket?_setOpen hopen false⟩
  · unfold readBytesFromSocket SocketLayer.readBytesFromSocket SocketLayer.exchangeIfOpen
    simp only [EStateM.run_bind, isOpen_run hd.opened, ↓reduceIte, hexchange, close_run hopen,
      hclosing, run_pure]
  · rw [World.client_setOpen]
    rfl

theorem readFromSocket_run {w : World} {stream : Bytes} {fuel : Nat}
    (hd : Delivers w stream) (hfuel : stream.length < fuel) :
    ∃ after, (readFromSocket fuel).run w = .ok (extractData stream) after ∧
      after.client.mErrorCode = .cleared ∧ after.socket? = some ⟨false⟩ := by
  obtain ⟨after, hrun, hrest⟩ := readBytesFromSocket_run hd hfuel
  refine ⟨after, ?_, hrest⟩
  unfold readFromSocket SocketLayer.readFromSocket
  simp only [EStateM.run_bind, hrun, run_pure]

theorem response_reassembled :
    (∀ w header body fuel, Delivers w (header ++ headerEnd ++ body) →
      ¬ headerEnd <:+: header → ¬ crlf <:+ header →
      (header ++ headerEnd ++ body).length < fuel →
      ∃ after, (readFromSocket fuel).run w = .ok ⟨header, body⟩ after ∧
        after.client.mErrorCode = .cleared ∧ after.socket? = some ⟨false⟩) ∧
    (∀ w₁ w₂ stream fuel₁ fuel₂, Delivers w₁ stream → Delivers w₂ stream →
      stream.length < fuel₁ → stream.length < fuel₂ →
      ∃ content after₁ after₂, (readFromSocket fuel₁).run w₁ = .ok content after₁ ∧
        (readFromSocket fuel₂).run w₂ = .ok content after₂) := by
  constructor
  · intro w header body fuel hd hno hend hfuel
    obtain ⟨after, hrun, hafter⟩ := readFromSocket_run hd hfuel
    rw [extractData_response hno hend] at hrun
    exact ⟨after, hrun, hafter⟩
  · intro w₁ w₂ stream fuel₁ fuel₂ hd₁ hd₂ hfuel₁ hfuel₂
    obtain ⟨after₁, hrun₁, -⟩ := readFromSocket_run hd₁ hfuel₁
    obtain ⟨after₂, hrun₂, -⟩ := readFromSocket_run hd₂ hfuel₂
    exact ⟨extractData stream, after₁, after₂, hrun₁, hrun₂⟩

def World.connected (net : NetworkScript) : World where
  client := { HttpClient.init with mSocket := some 0 }
  sockets := [⟨true⟩]
  net := net
  trace := []

theorem ready_connected (reads : List Segment) (ending : Failure) :
    Ready (.connected (.serving reads ending)) where
  opened := rfl
  written := by
    intro e rest h
    cases h
  waited := rfl

theorem delivers_connected (reads : List Segment) :
    Delivers (.connected (.serving reads .eof)) (reads.flatMap Segment.bytes) where
  toReady := ready_connected reads .eof
  buffer := by
    show 1 ≤ (4096 : Int32).toInt
    decide
  received := rfl
  ended := rfl
  closed := rfl

theorem response_reassembled_across_terminator :
    (∃ after, (readFromSocket 20).run (.connected
        (.serving [⟨text "H\r\n\r", by decide⟩, ⟨text "\n\r\n\r\n", by decide⟩] .eof)) =
      .ok ⟨text "H", text "\r\n\r\n"⟩ after ∧
      after.client.mErrorCode = .cleared ∧ after.socket? = some ⟨false⟩) ∧
    ∃ content after₁ after₂,
      (readFromSocket 20).run (.connected
        (.serving [⟨text "H\r\n\r", by decide⟩, ⟨text "\n\r\n\r\n", by decide⟩] .eof)) =
          .ok content after₁ ∧
      (readFromSocket 30).run (.connected
        (.serving [⟨text "H\r\n\r\n\r\n\r\n", by decide⟩] .eof)) = .ok content after₂ := by
  have hcut : Delivers (.connected
      (.serving [⟨text "H\r\n\r", by decide⟩, ⟨text "\n\r\n\r\n", by decide⟩] .eof))
      (text "H" ++ headerEnd ++ text "\r\n\r\n") := delivers_connected _
  have hwhole : Delivers (.connected
      (.serving [⟨text "H\r\n\r\n\r\n\r\n", by decide⟩] .eof))
      (text "H" ++ headerEnd ++ text "\r\n\r\n") := delivers_connected _
  exact ⟨response_reassembled.1 _ _ _ 20 hcut (by decide) (by decide) (by decide),
    response_reassembled.2 _ _ _ 20 30 hcut hwhole (by decide) (by decide)⟩

/-- The whole response has arrived, and the exception of `close` takes its place. -/
theorem response_lost_in_close :
    let net := { NetworkScript.serving [⟨text "H\r\n\r\na", by decide⟩] .eof with
      closing := some ⟨⟨5, .asioSystem⟩, rfl⟩ }
    let w := World.connected net
    Arrives w (text "H" ++ headerEnd ++ text "a") ∧ ¬ headerEnd <:+: text "H" ∧
      ¬ crlf <:+ text "H" ∧
      ∀ fuel, 6 < fuel → ∃ after, (readFromSocket fuel).run w =
        .error (.threw (.systemError ⟨5, .asioSystem⟩)) after := by
  intro net w
  have hready : Ready w := ⟨rfl, (ready_connected [] .eof).written, rfl⟩
  have hbuffer : 1 ≤ w.client.mBufferSize.toInt := by
    show 1 ≤ (4096 : Int32).toInt
    decide
  refine ⟨⟨hready, hbuffer, rfl, rfl⟩, by decide, by decide, fun fuel hfuel => ?_⟩
  obtain ⟨ec, rest, events, hexchange⟩ := exchange_run hready hbuffer hfuel
  have hopen : (w.wrote ec rest events).drained.socket? = some ⟨true⟩ := hready.opened
  refine ⟨(w.wrote ec rest events).drained.setOpen false, ?_⟩
  unfold readFromSocket SocketLayer.readFromSocket SocketLayer.readBytesFromSocket
    SocketLayer.exchangeIfOpen
  simp only [EStateM.run_bind, isOpen_run hready.opened, ↓reduceIte, hexchange, close_run hopen]
  rfl

end AsioClient
