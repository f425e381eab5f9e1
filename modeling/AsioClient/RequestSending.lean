import AsioClient.RequestHeaderBuilder
import AsioClient.ResponseStream

/-!
What has been sent when the client starts to wait for the response: `write_some` is called
once, so it is what the kernel takes of the header in one piece.
-/

set_option autoImplicit false

namespace AsioClient
open Imperative

def sentBytes (trace : List Event) : Bytes :=
  trace.flatMap fun e =>
    match e with
    | .sent data => data
    | _ => []

/-- The bytes sent before the first wait are exactly `data`. -/
def SentBeforeWait (data : Bytes) (trace : List Event) : Prop :=
  ∃ before after, trace = before ++ .waitRead :: after ∧ Event.waitRead ∉ before ∧
    sentBytes before = data

def TakesWhole (n : Nat) : List WriteResult → Prop
  | [] => True
  | .accepts m _ :: _ => n ≤ m
  | .fails _ :: _ => False

theorem createHeaderRequest_ne_nil {url header : Bytes} {type : RequestType}
    (h : createHeaderRequest url type = .ok header) : header ≠ [] := by
  obtain ⟨parsedUrl, subReq, -, -, rfl⟩ := createHeaderRequest_ok h
  exact requestText_ne_nil _ _

theorem keeps_trace_close : Keeps World.trace close := by
  unfold close
  refine .bind (keeps_isOpen _) fun opened => .ite ?_ (.pure _)
  refine .bind (.modify (World.trace_setOpen false)) fun _ => .bind (.reading _) fun closing => ?_
  cases closing with
  | none => exact .pure _
  | some e => exact .throw _

/-- Whatever comes back and however the call ends, the trace is the write and the wait. -/
theorem trace_readBytesFromSocket {w sent : World} {n : Nat} (fuel : Nat)
    (hopen : w.socket? = some ⟨true⟩)
    (hwrite : (writeSome w.client.mHeader).run w = .ok n sent)
    (hstill : sent.socket? = some ⟨true⟩) :
    (endState ((readBytesFromSocket fuel).run w)).trace = sent.trace ++ [.waitRead] := by
  have hwait : (endState (waitRead.run sent)).trace = sent.trace ++ [.waitRead] := by
    rw [waitRead_run hstill]
    cases sent.net.waiting with
    | none => rfl
    | some e => rfl
  calc (endState ((readBytesFromSocket fuel).run w)).trace
      = (endState ((exchangeIfOpen fuel).run w)).trace :=
        Keeps.endState_bind (fun _ => .bind keeps_trace_close fun _ => .pure _) _ w
    _ = (endState ((waitRead >>= fun _ => readLoop fuel []).run sent)).trace := by
        unfold exchangeIfOpen SocketLayer.exchangeIfOpen SocketLayer.exchange SocketLayer.reading
        simp only [EStateM.run_bind, isOpen_run hopen, ↓reduceIte, run_reading, hwrite]
    _ = (endState (waitRead.run sent)).trace :=
        Keeps.endState_bind (fun _ => keeps_readLoop (fun _ _ _ => rfl) fuel []) _ sent
    _ = sent.trace ++ [.waitRead] := hwait

theorem sentBeforeWait_single_iff (data piece : Bytes) :
    SentBeforeWait data [.sent piece, .waitRead] ↔ piece = data := by
  constructor
  · intro ⟨before, after, htrace, hno, hsent⟩
    match before with
    | [] => cases htrace
    | [e] =>
      obtain ⟨rfl, -⟩ := List.cons.inj htrace
      simpa [sentBytes] using hsent
    | e :: e' :: before =>
      obtain ⟨-, hrest⟩ := List.cons.inj htrace
      obtain ⟨rfl, -⟩ := List.cons.inj hrest
      simp at hno
  · intro h
    exact ⟨[.sent piece], [], rfl, by simp, by simp [sentBytes, h]⟩

theorem request_sent_whole_iff {w : World} {url : Bytes} {type : RequestType} (fuel : Nat)
    (hopen : w.socket? = some ⟨true⟩) (hfresh : w.trace = [])
    (hmade : createHeaderRequest url type = .ok w.client.mHeader)
    (hok : ∀ e, .fails e ∉ w.net.writes) :
    SentBeforeWait w.client.mHeader (endState ((readBytesFromSocket fuel).run w)).trace ↔
      TakesWhole w.client.mHeader.length w.net.writes := by
  have hne := createHeaderRequest_ne_nil hmade
  have hwrite := writeSome_run hopen hne
  cases hw : w.net.writes with
  | nil =>
    rw [hw] at hwrite
    rw [trace_readBytesFromSocket fuel hopen hwrite hopen]
    simp [World.wrote, hfresh, sentBeforeWait_single_iff, TakesWhole]
  | cons first rest =>
    cases first with
    | fails e => exact absurd (by simp [hw]) (hok e)
    | accepts n pos =>
      rw [hw] at hwrite
      rw [trace_readBytesFromSocket fuel hopen hwrite hopen]
      simp [World.wrote, hfresh, sentBeforeWait_single_iff, TakesWhole]

def World.requesting (net : NetworkScript) : World :=
  (World.connected net).setRequest (requestText (text "/") (text "a")) (text "a") 80

theorem request_sent_whole_idle :
    SentBeforeWait (requestText (text "/") (text "a"))
      (endState ((readBytesFromSocket 9).run (.requesting (.serving [] .eof)))).trace := by
  have hmade : createHeaderRequest (text "a/") .GET =
      .ok (World.requesting (.serving [] .eof)).client.mHeader := by decide +kernel
  have hiff := request_sent_whole_iff (w := .requesting (.serving [] .eof)) 9 rfl rfl hmade
    (by intro e h; cases h)
  exact hiff.2 trivial

/-- The kernel takes three bytes; the wait starts with the rest of the request unsent. -/
theorem request_cut_short :
    let net := { NetworkScript.serving [] .eof with writes := [.accepts 3 (by decide)] }
    let w := World.requesting net
    w.socket? = some ⟨true⟩ ∧ createHeaderRequest (text "a/") .GET = .ok w.client.mHeader ∧
      (∀ e, .fails e ∉ w.net.writes) ∧
      (endState ((readBytesFromSocket 9).run w)).trace = [.sent (text "GET"), .waitRead] ∧
      ¬ SentBeforeWait w.client.mHeader (endState ((readBytesFromSocket 9).run w)).trace := by
  intro net w
  have htrace : (endState ((readBytesFromSocket 9).run w)).trace =
      [.sent (text "GET"), .waitRead] := by decide +kernel
  have hpiece : text "GET" ≠ w.client.mHeader := by decide
  have hok : ∀ e, WriteResult.fails e ∉ w.net.writes := by
    intro e
    simp [w, net, World.requesting, World.setRequest, World.connected]
  refine ⟨rfl, by decide +kernel, hok, htrace, ?_⟩
  rw [htrace, sentBeforeWait_single_iff]
  exact hpiece

end AsioClient
