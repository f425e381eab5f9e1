import AsioClient.ConnectRun
import AsioClient.ResponseStream

/-!
Two runs of one download side by side. Whatever a client carries over from earlier calls is
rewritten before it is read, and the error that ends a stream is cleared before the call
returns; so neither of the two shows in the outcome.
-/

set_option autoImplicit false

namespace AsioClient
open Imperative

/-- Scripts that differ at most in the error at the end of the stream. -/
structure SameButEnding (m n : NetworkScript) : Prop where
  resolving : m.resolving = n.resolving
  opening : m.opening = n.opening
  connecting : m.connecting = n.connecting
  writes : m.writes = n.writes
  waiting : m.waiting = n.waiting
  reads : m.reads = n.reads
  closing : m.closing = n.closing

/-- Two worlds in which a download can start: only the error codes may differ, as `E` says,
and what the download will overwrite. -/
structure Before (E : ErrorCode → ErrorCode → Prop) (s t : World) : Prop where
  buffer : s.client.mBufferSize = t.client.mBufferSize
  error : E s.client.mErrorCode t.client.mErrorCode
  net : SameButEnding s.net t.net
  trace : s.trace = t.trace

structure During (E : ErrorCode → ErrorCode → Prop) (s t : World) : Prop extends
    Before E s t where
  header : s.client.mHeader = t.client.mHeader
  socket : ∃ k, s.socket? = some k ∧ t.socket? = some k

/-- Error codes that a test for an error does not tell apart. -/
def SameTest (a b : ErrorCode) : Prop := a = b ∨ a.isSet = true ∧ b.isSet = true

theorem SameTest.isSet_eq {a b : ErrorCode} (h : SameTest a b) : a.isSet = b.isSet := by
  rcases h with rfl | ⟨ha, hb⟩
  · rfl
  · rw [ha, hb]

section Steps

variable {E E' : ErrorCode → ErrorCode → Prop} {s t : World}

theorem During.setErrorCode (h : During E s t) {a b : ErrorCode} (hab : E' a b) :
    During E' (s.setErrorCode a) (t.setErrorCode b) :=
  ⟨⟨h.buffer, hab, h.net, h.trace⟩, h.header, h.socket⟩

theorem During.log (h : During E s t) (e : Event) : During E (s.log e) (t.log e) :=
  ⟨⟨h.buffer, h.error, h.net, congrArg (· ++ [e]) h.trace⟩, h.header, h.socket⟩

theorem During.script (h : During E s t) {m n : NetworkScript} (hmn : SameButEnding m n) :
    During E { s with net := m } { t with net := n } :=
  ⟨⟨h.buffer, h.error, hmn, h.trace⟩, h.header, h.socket⟩

theorem During.setOpen (h : During E s t) (opened : Bool) :
    During E (s.setOpen opened) (t.setOpen opened) := by
  obtain ⟨k, hs, ht⟩ := h.socket
  have hbefore : Before E (s.setOpen opened) (t.setOpen opened) :=
    ⟨by simpa using h.buffer, by simpa using h.error, by simpa using h.net,
      by simpa using h.trace⟩
  exact ⟨hbefore, by simpa using h.header, ⟨opened⟩,
    World.socket?_setOpen hs opened, World.socket?_setOpen ht opened⟩

theorem During.writes (h : During E s t) (ws : List WriteResult) :
    During E { s with net := { s.net with writes := ws } }
      { t with net := { t.net with writes := ws } } :=
  h.script { h.net with writes := rfl }

theorem During.reads (h : During E s t) (segs : List Segment) :
    During E { s with net := { s.net with reads := segs } }
      { t with net := { t.net with reads := segs } } :=
  h.script { h.net with reads := rfl }

end Steps

theorem twin_isOpen (E : ErrorCode → ErrorCode → Prop) :
    Twin (During E) isOpen (fun _ => During E) (During E) := by
  intro s t h
  obtain ⟨k, hs, ht⟩ := h.socket
  rw [isOpen_run hs, isOpen_run ht]
  exact .returned h

theorem twin_guarded {α : Type} (R : World → World → Prop) (r : Except Exn α) :
    Twin R (guarded r) (fun _ => R) R := by
  cases r with
  | ok a => exact .pure fun s t h => h
  | error e => exact .throw fun s t h => h

theorem twin_writeSome (buffer : Bytes) :
    Twin (During Eq) (writeSome buffer) (fun _ => During Eq) (During Eq) := by
  unfold writeSome
  refine .bind (twin_isOpen Eq) fun opened => ?_
  refine .ite (fun _ => ?_) fun _ => .ite (fun _ => ?_) fun _ => ?_
  · refine .bind (.modify fun s t h => ?_) fun _ => .pure fun s t h => h
    exact h.setErrorCode rfl
  · refine .bind (.modify fun s t h => ?_) fun _ => .pure fun s t h => h
    exact h.setErrorCode (congrArg ErrorCode.succeed h.error)
  · refine .bind_reading (fun s t h => h.net.writes) fun writes => ?_
    match writes with
    | [] =>
      refine .bind (.modify fun s t h => ?_) fun _ => .pure fun s t h => h
      have hclear := h.setErrorCode (congrArg ErrorCode.succeed h.error)
      exact (hclear.log (.sent (buffer.take buffer.length))).writes []
    | .fails e :: rest =>
      refine .bind (.modify fun s t h => ?_) fun _ => .pure fun s t h => h
      exact (h.setErrorCode rfl).writes rest
    | .accepts n _ :: rest =>
      refine .bind (.modify fun s t h => ?_) fun _ => .pure fun s t h => h
      have hclear := h.setErrorCode (congrArg ErrorCode.succeed h.error)
      exact (hclear.log (.sent (buffer.take n))).writes rest

theorem twin_waitRead : Twin (During Eq) waitRead (fun _ => During Eq) (During Eq) := by
  unfold waitRead
  refine .bind (twin_isOpen Eq) fun opened => ?_
  refine .bind (S := fun _ => During Eq) (.modify fun s t h => h.log .waitRead) fun _ => ?_
  refine .ite (fun _ => .throw fun s t h => h) fun _ => ?_
  refine .bind_reading (fun s t h => h.net.waiting) fun waiting => ?_
  cases waiting with
  | none => exact .pure fun s t h => h
  | some e => exact .throw fun s t h => h

/-- Only a read past the last segment tells the two endings apart, and not whether it
failed. -/
theorem twin_readSome (size : Nat) :
    Twin (During Eq) (readSome size) (fun _ => During SameTest) (During Eq) := by
  unfold readSome
  refine .bind (twin_isOpen Eq) fun opened => ?_
  refine .ite (fun _ => ?_) fun _ => .ite (fun _ => ?_) fun _ => ?_
  · refine .bind (.modify fun s t h => ?_) fun _ => .pure fun s t h => h
    exact h.setErrorCode (.inl rfl)
  · refine .bind (.modify fun s t h => ?_) fun _ => .pure fun s t h => h
    exact h.setErrorCode (.inl (congrArg ErrorCode.succeed h.error))
  · refine .bind_reading (fun s t h => h.net.reads) fun reads => ?_
    cases reads with
    | nil =>
      refine .bind (.modify fun s t h => ?_) fun _ => .pure fun s t h => h
      exact h.setErrorCode (.inr ⟨s.net.ending.isSet, t.net.ending.isSet⟩)
    | cons seg later =>
      refine .bind (.modify fun s t h => ?_) fun _ => .pure fun s t h => h
      have hcode : SameTest s.client.mErrorCode.succeed t.client.mErrorCode.succeed :=
        .inl (congrArg ErrorCode.succeed h.error)
      have hclear := h.setErrorCode hcode
      exact hclear.reads (seg.rest size ++ later)

theorem twin_close : Twin (During Eq) close (fun _ => During Eq) (During Eq) := by
  unfold close
  refine .bind (twin_isOpen Eq) fun opened => .ite (fun _ => ?_) fun _ => .pure fun s t h => h
  refine .bind (S := fun _ => During Eq) (.modify fun s t h => h.setOpen false) fun _ => ?_
  refine .bind_reading (fun s t h => h.net.closing) fun closing => ?_
  cases closing with
  | none => exact .pure fun s t h => h
  | some e => exact .throw fun s t h => h

/-- After every round the loop has either stopped, with the error code cleared, or seen no
error, and then the codes agree. -/
theorem twin_readLoop (fuel : Nat) (collected : Bytes) :
    Twin (During Eq) (readLoop fuel collected) (fun _ => During Eq) (During Eq) := by
  induction fuel generalizing collected with
  | zero => exact .throw fun s t h => h
  | succ fuel ih =>
    unfold readLoop SocketLayer.readLoop
    refine .bind_reading (fun s t h => congrArg ErrorCode.isSet h.error) fun stopped => ?_
    refine .ite (fun _ => .pure fun s t h => h) fun _ => ?_
    refine .bind_reading (fun s t h => h.buffer) fun mBufferSize => ?_
    refine .bind (twin_guarded _ _) fun size => .bind (twin_readSome size) fun received => ?_
    refine .bind_reading (fun s t h => SameTest.isSet_eq h.error) fun failed => ?_
    refine .bind (S := fun ended s t =>
      During SameTest s t ∧ (ended = false → During Eq s t)) (.reading ?_) fun ended => ?_
    · intro s t h
      dsimp only
      rcases h.error with heq | ⟨hs, ht⟩
      · rw [heq]
        refine ⟨rfl, h, fun _ => ?_⟩
        exact ⟨⟨h.buffer, heq, h.net, h.trace⟩, h.header, h.socket⟩
      · rw [hs, ht]
        exact ⟨rfl, h, fun hfalse => by cases hfalse⟩
    · refine .ite (fun _ => ?_) fun hnot => ?_
      · refine .bind (.modify fun s t h => ?_) fun _ => .pure fun s t h => h
        exact h.1.setErrorCode rfl
      · refine (ih _).mono (fun s t h => h.2 ?_) (fun _ _ _ h => h) (fun _ _ h => h)
        simpa using hnot

theorem twin_readFromSocket (fuel : Nat) :
    Twin (During Eq) (readFromSocket fuel) (fun _ => During Eq) (During Eq) := by
  unfold readFromSocket SocketLayer.readFromSocket SocketLayer.readBytesFromSocket
    SocketLayer.exchangeIfOpen SocketLayer.exchange
  refine .bind (.bind ?_ fun collected => .bind twin_close fun _ => .pure fun s t h => h)
    fun bytes => .pure fun s t h => h
  refine .bind (twin_isOpen Eq) fun opened => .ite (fun _ => ?_) fun _ => .pure fun s t h => h
  refine .bind_reading (fun s t h => h.header) fun mHeader => ?_
  refine .bind (twin_writeSome mHeader) fun _ => .bind twin_waitRead fun _ => ?_
  exact twin_readLoop fuel []

theorem Before.dial {E : ErrorCode → ErrorCode → Prop} {s t : World} (hrefl : ∀ a, E a a)
    (h : Before E s t) (hheader : s.client.mHeader = t.client.mHeader) (endpoint : Endpoint) :
    Before E (s.dial endpoint) (t.dial endpoint) ∧
      (s.net.connects = true → During Eq (s.dial endpoint) (t.dial endpoint)) := by
  have htrace : s.trace ++ [.opened] ++ [.connect endpoint] =
      t.trace ++ [.opened] ++ [.connect endpoint] := by rw [h.trace]
  rw [World.dial_eq, World.dial_eq, ← h.net.opening, ← h.net.connecting]
  unfold NetworkScript.connects
  cases s.net.opening with
  | some e => exact ⟨⟨h.buffer, hrefl _, h.net, h.trace⟩, fun hfalse => by cases hfalse⟩
  | none =>
    cases s.net.connecting with
    | some e => exact ⟨⟨h.buffer, hrefl _, h.net, htrace⟩, fun hfalse => by cases hfalse⟩
    | none =>
      refine ⟨⟨h.buffer, hrefl _, h.net, htrace⟩, fun _ => ?_⟩
      exact ⟨⟨h.buffer, rfl, h.net, htrace⟩, hheader, ⟨true⟩,
        World.socket?_withSocket true s, World.socket?_withSocket true t⟩

theorem twin_connectClient {E : ErrorCode → ErrorCode → Prop} (hrefl : ∀ a, E a a)
    (url : Bytes) (port : Int32) (type : RequestType) :
    Twin (Before E) (connectClient url port type)
      (fun connected s t => Before E s t ∧ (connected = true → During Eq s t)) (Before E) := by
  intro s t h
  rw [connectClient_run, connectClient_run]
  cases prepare url type with
  | error e => exact .stopped h
  | ok request =>
    obtain ⟨header, name⟩ := request
    have hends : t.net.endpoints = s.net.endpoints := by
      simp only [NetworkScript.endpoints, h.net.resolving]
    have hconnects : t.net.connects = s.net.connects := by
      simp only [NetworkScript.connects, h.net.opening, h.net.connecting]
    have hasked : Before E ((s.setRequest header name port).log (.resolve name port))
        ((t.setRequest header name port).log (.resolve name port)) :=
      ⟨h.buffer, h.error, h.net, congrArg (· ++ [Event.resolve name port]) h.trace⟩
    simp only [hends, hconnects]
    cases s.net.endpoints with
    | nil => exact .returned ⟨hasked, fun hfalse => by cases hfalse⟩
    | cons endpoint rest => exact .returned (hasked.dial hrefl rfl endpoint)

theorem twin_download {E : ErrorCode → ErrorCode → Prop} (hrefl : ∀ a, E a a)
    (fuel : Nat) (url : Bytes) (port : Int32) (use : HttpContentData → Bytes) :
    Twin (Before E) (download fuel url port use) (fun _ => Before E) (Before E) := by
  have hweaken : ∀ s t, During Eq s t → Before E s t := by
    intro s t h
    exact ⟨h.buffer, h.error ▸ hrefl _, h.net, h.trace⟩
  unfold download SocketLayer.download
  refine .bind (twin_connectClient hrefl url port .GET) fun connected => ?_
  refine .ite (fun hc => .bind ?_ fun result => .pure hweaken) fun _ => .pure fun s t h => h.1
  exact (twin_readFromSocket fuel).mono (fun s t h => h.2 hc) (fun _ _ _ h => h) hweaken

theorem twin_downloadString {E : ErrorCode → ErrorCode → Prop} (hrefl : ∀ a, E a a)
    (fuel : Nat) (url : Bytes) (port : Int32) :
    Twin (Before E) (downloadString fuel url port) (fun _ => Before E) (Before E) :=
  twin_download hrefl fuel url port _

theorem twin_downloadByteData {E : ErrorCode → ErrorCode → Prop} (hrefl : ∀ a, E a a)
    (fuel : Nat) (url : Bytes) (port : Int32) :
    Twin (Before E) (downloadByteData fuel url port) (fun _ => Before E) (Before E) :=
  twin_download hrefl fuel url port _

def visible (r : EStateM.Result Halt World Bytes) : Except Halt Bytes × ErrorCode :=
  (outcome r, (endState r).client.mErrorCode)

def observed (r : EStateM.Result Halt World Bytes) : Except Halt Bytes × List Event :=
  (outcome r, (endState r).trace)

theorem visible_eq_of_sameEnd {r r' : EStateM.Result Halt World Bytes}
    (h : SameEnd (fun _ => Before Eq) (Before Eq) r r') : visible r = visible r' := by
  cases h with
  | returned h => exact congrArg (Prod.mk _) h.error
  | stopped h => exact congrArg (Prod.mk _) h.error

theorem observed_eq_of_sameEnd {E : ErrorCode → ErrorCode → Prop}
    {r r' : EStateM.Result Halt World Bytes}
    (h : SameEnd (fun _ => Before E) (Before E) r r') : observed r = observed r' := by
  cases h with
  | returned h => exact congrArg (Prod.mk _) h.trace
  | stopped h => exact congrArg (Prod.mk _) h.trace

/-- No run shows whether the stream ended or broke off. -/
theorem broken_stream_invisible (fuel : Nat) (url : Bytes) (port : Int32) (w : World)
    (net : NetworkScript) (e : Failure) :
    visible ((downloadByteData fuel url port).run (w.start { net with ending := e })) =
        visible ((downloadByteData fuel url port).run (w.start { net with ending := .eof })) ∧
      visible ((downloadString fuel url port).run (w.start { net with ending := e })) =
        visible ((downloadString fuel url port).run (w.start { net with ending := .eof })) := by
  have hstart : Before Eq (w.start { net with ending := e })
      (w.start { net with ending := .eof }) :=
    ⟨rfl, rfl, ⟨rfl, rfl, rfl, rfl, rfl, rfl, rfl⟩, rfl⟩
  exact ⟨visible_eq_of_sameEnd (twin_downloadByteData (fun _ => rfl) fuel url port _ _ hstart),
    visible_eq_of_sameEnd (twin_downloadString (fun _ => rfl) fuel url port _ _ hstart)⟩

def connectionReset : Failure := ⟨⟨104, .asioSystem⟩, rfl⟩

/-- One byte of a body arrives and the connection is reset: the caller gets that byte and a
cleared error code, as after a complete response. -/
theorem reset_looks_complete :
    let net := NetworkScript.serving [⟨text "H\r\n\r\na", by decide⟩] .eof
    let reset := (downloadByteData 9 (text "http://a/") 80).run
      ((World.init net).start { net with ending := connectionReset })
    connectionReset.code ≠ .eof ∧ outcome reset = .ok (text "a") ∧
      (endState reset).client.mErrorCode = .cleared ∧
      visible reset = visible ((downloadByteData 9 (text "http://a/") 80).run
        ((World.init net).start net)) := by
  intro net reset
  exact ⟨by decide, rfl, rfl, rfl⟩

/-- Any two clients with the same buffer size, whatever their calls have left behind. -/
theorem downloads_independent {w₁ w₂ : World}
    (hbuffer : w₁.client.mBufferSize = w₂.client.mBufferSize) (fuel : Nat) (url : Bytes)
    (port : Int32) (net : NetworkScript) :
    observed ((downloadByteData fuel url port).run (w₁.start net)) =
        observed ((downloadByteData fuel url port).run (w₂.start net)) ∧
      observed ((downloadString fuel url port).run (w₁.start net)) =
        observed ((downloadString fuel url port).run (w₂.start net)) := by
  have hstart : Before (fun _ _ => True) (w₁.start net) (w₂.start net) :=
    ⟨hbuffer, trivial, ⟨rfl, rfl, rfl, rfl, rfl, rfl, rfl⟩, rfl⟩
  exact ⟨observed_eq_of_sameEnd (twin_downloadByteData (fun _ => trivial) fuel url port _ _ hstart),
    observed_eq_of_sameEnd (twin_downloadString (fun _ => trivial) fuel url port _ _ hstart)⟩

theorem downloads_independent_after_reset :
    let net := NetworkScript.serving [⟨text "H\r\n\r\na", by decide⟩] .eof
    let used := endState ((downloadString 9 (text "http://b/c") 81).run
      (World.init { net with connecting := some connectionReset }))
    used.client.mErrorCode = connectionReset.code ∧
      observed ((downloadByteData 9 (text "http://a/") 80).run (used.start net)) =
        observed ((downloadByteData 9 (text "http://a/") 80).run ((World.init net).start net)) := by
  intro net used
  have hbuffer : used.client.mBufferSize = (World.init net).client.mBufferSize := rfl
  exact ⟨rfl, (downloads_independent hbuffer 9 (text "http://a/") 80 net).1⟩

end AsioClient
