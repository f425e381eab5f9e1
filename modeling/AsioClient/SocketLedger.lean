import AsioClient.BufferSizes
import AsioClient.RequestSending
import AsioClient.RequestShape

/-!
The sockets that calls leave open. A call opens at most one socket, and whether it closes it
again can be told from the URL, the buffer size and the network before the call starts.
-/

set_option autoImplicit false

namespace AsioClient
open Imperative

def World.openSockets (w : World) : Nat := w.sockets.countP (·.isOpen)

/-- All sockets, and which one the client points at. -/
def World.ledger (w : World) : List Socket × Option Nat := (w.sockets, w.client.mSocket)

theorem World.sockets_setOpen (opened : Bool) (w : World) :
    (w.setOpen opened).sockets =
      match w.client.mSocket with
      | some i => w.sockets.set i ⟨opened⟩
      | none => w.sockets := by
  unfold setOpen
  cases w.client.mSocket with
  | none => rfl
  | some i => rfl

def writeFails : List WriteResult → Bool
  | .fails _ :: _ => true
  | _ => false

def exchangeThrows (mBufferSize : Int32) (net : NetworkScript) : Bool :=
  net.waiting.isSome || (!writeFails net.writes && decide (mBufferSize.toInt < 0))

/-- A run that came to its end threw an exception exactly when `throws` says so. -/
def EndsThrowing {α : Type} (throws : Bool) : EStateM.Result Halt World α → Prop
  | .ok _ _ => throws = false
  | .error (.threw _) _ => throws = true
  | .error _ _ => True

theorem keeps_ledger_writeSome (buffer : Bytes) : Keeps World.ledger (writeSome buffer) := by
  unfold writeSome
  refine .bind (keeps_isOpen _) fun opened => .ite ?_ (.ite ?_ ?_)
  · exact .bind (.modify fun _ => rfl) fun _ => .pure _
  · exact .bind (.modify fun _ => rfl) fun _ => .pure _
  · refine .bind (.reading _) fun writes => ?_
    match writes with
    | [] => exact .bind (.modify fun _ => rfl) fun _ => .pure _
    | .fails e :: rest => exact .bind (.modify fun _ => rfl) fun _ => .pure _
    | .accepts n _ :: rest => exact .bind (.modify fun _ => rfl) fun _ => .pure _

theorem keeps_ledger_waitRead : Keeps World.ledger waitRead := by
  unfold waitRead
  refine .bind (keeps_isOpen _) fun opened => .bind (.modify fun _ => rfl) fun _ => ?_
  refine .ite (.throw _) (.bind (.reading _) fun waiting => ?_)
  cases waiting with
  | none => exact .pure _
  | some e => exact .throw _

theorem keeps_ledger_exchange (fuel : Nat) : Keeps World.ledger (exchange fuel) := by
  unfold exchange SocketLayer.exchange
  refine .bind (.reading _) fun mHeader => .bind (keeps_ledger_writeSome mHeader) fun _ => ?_
  exact .bind keeps_ledger_waitRead fun _ => keeps_readLoop (fun _ _ _ => rfl) fuel []

theorem readLoop_stopped {w : World} (hset : w.client.mErrorCode.isSet = true) (fuel : Nat)
    (collected : Bytes) : EndsThrowing false ((readLoop fuel collected).run w) := by
  cases fuel with
  | zero => exact trivial
  | succ fuel =>
    have hrun := SocketLayer.readLoop_set (L := scriptedLayer) hset fuel collected
    exact hrun ▸ rfl

theorem readLoop_returns {w : World} (hopen : w.socket? = some ⟨true⟩)
    (hok : w.client.mErrorCode.isSet = false) (hneg : ¬ w.client.mBufferSize.toInt < 0)
    (fuel : Nat) (collected : Bytes) : EndsThrowing false ((readLoop fuel collected).run w) := by
  by_cases hzero : w.client.mBufferSize = 0
  · obtain ⟨after, hrun⟩ := readLoop_empty_buffer fuel collected hopen hok hzero
    exact hrun ▸ trivial
  · obtain ⟨size, hvec, hsize⟩ := vectorOfSize_of_pos (n := w.client.mBufferSize) (by
      have : w.client.mBufferSize.toInt ≠ 0 := fun h => hzero (Int32.toInt_inj.1 h)
      omega)
    have hmore : fuel ≤ fuel + w.net.stream.length + 1 := by omega
    have hrun := readLoop_run (fuel + w.net.stream.length + 1) collected hopen hok hvec hsize
      (by omega)
    rcases SocketLayer.outlasts_readLoop (L := scriptedLayer) hmore collected w with
      ⟨after, hstops⟩ | hsame
    · exact hstops ▸ trivial
    · exact (hsame.symm.trans hrun) ▸ rfl

theorem readLoop_throws {w : World} (hok : w.client.mErrorCode.isSet = false)
    (hneg : w.client.mBufferSize.toInt < 0) (fuel : Nat) (collected : Bytes) :
    EndsThrowing true ((readLoop fuel collected).run w) := by
  cases fuel with
  | zero => exact trivial
  | succ fuel =>
    have hrun := SocketLayer.readLoop_negative (L := scriptedLayer) hok hneg fuel collected
    exact hrun ▸ rfl

theorem wait_and_read_endsThrowing {w : World} (hopen : w.socket? = some ⟨true⟩) (fuel : Nat) :
    EndsThrowing (w.net.waiting.isSome ||
        (!w.client.mErrorCode.isSet && decide (w.client.mBufferSize.toInt < 0)))
      ((waitRead >>= fun _ => readLoop fuel []).run w) := by
  rw [EStateM.run_bind, waitRead_run hopen]
  cases w.net.waiting with
  | some e => rfl
  | none =>
    have hlogged : (w.log .waitRead).socket? = some ⟨true⟩ := hopen
    by_cases hset : w.client.mErrorCode.isSet = true
    · simp only [hset, Option.isSome_none, Bool.not_true, Bool.false_and, Bool.or_false]
      exact readLoop_stopped (w := w.log .waitRead) hset fuel []
    · have hok : w.client.mErrorCode.isSet = false := by simpa using hset
      by_cases hneg : w.client.mBufferSize.toInt < 0
      · simp only [hok, hneg, Option.isSome_none, Bool.not_false, decide_true, Bool.and_self,
          Bool.or_true]
        exact readLoop_throws (w := w.log .waitRead) hok hneg fuel []
      · simp only [hneg, Option.isSome_none, decide_false, Bool.and_false, Bool.or_self]
        exact readLoop_returns (w := w.log .waitRead) hlogged hok hneg fuel []

theorem writeSome_returns {w : World} (hopen : w.socket? = some ⟨true⟩) {buffer : Bytes}
    (hb : buffer ≠ []) :
    ∃ n ec rest events, (writeSome buffer).run w = .ok n (w.wrote ec rest events) ∧
      ec.isSet = writeFails w.net.writes := by
  rw [writeSome_run hopen hb]
  cases w.net.writes with
  | nil => exact ⟨_, _, _, _, rfl, rfl⟩
  | cons first rest =>
    cases first with
    | fails e => exact ⟨_, _, _, _, rfl, e.isSet⟩
    | accepts n pos => exact ⟨_, _, _, _, rfl, rfl⟩

theorem exchange_endsThrowing {w : World} (hopen : w.socket? = some ⟨true⟩)
    (hheader : w.client.mHeader ≠ []) (fuel : Nat) :
    EndsThrowing (exchangeThrows w.client.mBufferSize w.net) ((exchange fuel).run w) := by
  obtain ⟨n, ec, rest, events, hwrite, hec⟩ := writeSome_returns hopen hheader
  have hrest := wait_and_read_endsThrowing (w := w.wrote ec rest events) hopen fuel
  have hrun : (exchange fuel).run w =
      (waitRead >>= fun _ => readLoop fuel []).run (w.wrote ec rest events) := by
    unfold exchange SocketLayer.exchange SocketLayer.reading
    rw [EStateM.run_bind, run_reading]
    simp only [EStateM.run_bind, hwrite]
  rw [hrun, exchangeThrows, ← hec]
  exact hrest

def Finished {α : Type} : EStateM.Result Halt World α → Prop
  | .ok _ _ => True
  | .error (.threw _) _ => True
  | .error _ _ => False

/-- A call with this URL, buffer size and network opens a socket and does not close it: the
connect fails after the socket was opened, or the exchange throws. -/
def leavesOpen (url : Bytes) (mBufferSize : Int32) (net : NetworkScript) : Bool :=
  (prepare url .GET).isOk && !net.endpoints.isEmpty && net.opening.isNone &&
    (net.connecting.isSome || exchangeThrows mBufferSize net)

theorem readFromSocket_run_open {w : World} (hopen : w.socket? = some ⟨true⟩) (fuel : Nat) :
    (readFromSocket fuel).run w =
      match (exchange fuel).run w with
      | .ok collected after => (close >>= fun _ => pure (extractData collected)).run after
      | .error e after => .error e after := by
  unfold readFromSocket SocketLayer.readFromSocket SocketLayer.readBytesFromSocket
    SocketLayer.exchangeIfOpen
  simp only [EStateM.run_bind, isOpen_run hopen, ↓reduceIte]
  cases (exchange fuel).run w with
  | ok collected after =>
    dsimp only
    cases close.run after <;> rfl
  | error e after => rfl

theorem sockets_close {w after : World} (hledger : after.ledger = w.ledger)
    (hopen : w.socket? = some ⟨true⟩) (content : HttpContentData) :
    (endState ((close >>= fun _ => pure content).run after)).sockets =
      (w.setOpen false).sockets := by
  have hsockets : after.sockets = w.sockets := congrArg Prod.fst hledger
  have hcurrent : after.client.mSocket = w.client.mSocket := congrArg Prod.snd hledger
  have hstill : after.socket? = some ⟨true⟩ := by
    unfold World.socket? at hopen ⊢
    rwa [hsockets, hcurrent]
  have hclosed : (after.setOpen false).sockets = (w.setOpen false).sockets := by
    rw [World.sockets_setOpen, World.sockets_setOpen, hsockets, hcurrent]
  rw [← hclosed]
  simp only [EStateM.run_bind, close_run hstill]
  cases after.net.closing with
  | none => rfl
  | some e => rfl

theorem sockets_readFromSocket {w : World} (hopen : w.socket? = some ⟨true⟩)
    (hheader : w.client.mHeader ≠ []) {fuel : Nat}
    (hfin : Finished ((readFromSocket fuel).run w)) :
    (endState ((readFromSocket fuel).run w)).sockets =
      if exchangeThrows w.client.mBufferSize w.net then w.sockets
      else (w.setOpen false).sockets := by
  have hthrows := exchange_endsThrowing hopen hheader fuel
  have hledger := keeps_ledger_exchange fuel w
  rw [readFromSocket_run_open hopen] at hfin ⊢
  cases hex : (exchange fuel).run w with
  | error e after =>
    rw [hex] at hthrows hledger hfin
    cases e with
    | threw e =>
      have hthrows : exchangeThrows w.client.mBufferSize w.net = true := hthrows
      rw [if_pos hthrows]
      exact congrArg Prod.fst hledger
    | running => exact hfin.elim
    | undefined => exact hfin.elim
  | ok collected after =>
    rw [hex] at hthrows hledger
    have hthrows : exchangeThrows w.client.mBufferSize w.net = false := hthrows
    rw [if_neg (by simp [hthrows])]
    exact sockets_close hledger hopen _

theorem openSockets_dial (endpoint : Endpoint) (w : World) :
    (w.dial endpoint).openSockets = w.openSockets + if w.net.opening.isNone then 1 else 0 := by
  rw [World.dial_eq]
  cases w.net.opening with
  | some e => simp [World.openSockets, World.setErrorCode, World.withSocket]
  | none =>
    cases w.net.connecting with
    | some e => simp [World.openSockets, World.setErrorCode, World.withSocket, World.log]
    | none => simp [World.openSockets, World.setErrorCode, World.withSocket, World.log]

theorem dial_connected (endpoint : Endpoint) {w : World} (h : w.net.connects = true) :
    (w.dial endpoint).socket? = some ⟨true⟩ ∧
      (w.dial endpoint).client.mHeader = w.client.mHeader ∧
      (w.dial endpoint).client.mBufferSize = w.client.mBufferSize ∧
      (w.dial endpoint).net = w.net ∧
      (w.dial endpoint).openSockets = w.openSockets + 1 ∧
      ((w.dial endpoint).setOpen false).openSockets = w.openSockets := by
  obtain ⟨hopening, hconnecting⟩ : w.net.opening = none ∧ w.net.connecting = none := by
    simpa [NetworkScript.connects] using h
  have hcount := openSockets_dial endpoint w
  rw [hopening] at hcount
  rw [World.dial_eq, hopening, hconnecting] at hcount ⊢
  refine ⟨World.socket?_withSocket true w, rfl, rfl, rfl, hcount, ?_⟩
  simp [World.openSockets, World.setOpen, World.setErrorCode, World.withSocket, World.log]

theorem openSockets_use {v : World} (hopen : v.socket? = some ⟨true⟩)
    (hheader : v.client.mHeader ≠ []) {fuel : Nat} {use : HttpContentData → Bytes}
    (hfin : Finished ((readFromSocket fuel >>= fun result => pure (use result)).run v)) :
    (endState ((readFromSocket fuel >>= fun result => pure (use result)).run v)).openSockets =
      if exchangeThrows v.client.mBufferSize v.net then v.openSockets
      else (v.setOpen false).openSockets := by
  have hread : Finished ((readFromSocket fuel).run v) → _ := sockets_readFromSocket hopen hheader
  rw [EStateM.run_bind] at hfin ⊢
  have hcount : ∀ t : World, t.sockets = (if exchangeThrows v.client.mBufferSize v.net then
      v.sockets else (v.setOpen false).sockets) →
      t.openSockets = if exchangeThrows v.client.mBufferSize v.net then v.openSockets
        else (v.setOpen false).openSockets := by
    intro t ht
    unfold World.openSockets
    rw [ht]
    split <;> rfl
  cases hr : (readFromSocket fuel).run v with
  | ok result t =>
    rw [hr] at hread
    exact hcount t (hread trivial)
  | error e t =>
    rw [hr] at hread hfin
    cases e with
    | threw e => exact hcount t (hread trivial)
    | running => exact hfin.elim
    | undefined => exact hfin.elim

theorem openSockets_dialled {asked : World} {endpoint : Endpoint} {fuel : Nat}
    {use : HttpContentData → Bytes} (hheader : asked.client.mHeader ≠ [])
    (hfin : Finished ((if asked.net.connects then
        readFromSocket fuel >>= fun result => pure (use result) else pure []).run
          (asked.dial endpoint))) :
    (endState ((if asked.net.connects then
        readFromSocket fuel >>= fun result => pure (use result) else pure []).run
          (asked.dial endpoint))).openSockets =
      asked.openSockets + if asked.net.opening.isNone && (asked.net.connecting.isSome ||
        exchangeThrows asked.client.mBufferSize asked.net) then 1 else 0 := by
  cases hc : asked.net.connects with
  | false =>
    have hdial := openSockets_dial endpoint asked
    simp only [Bool.false_eq_true, ↓reduceIte, run_pure, endState_ok, hdial]
    cases ho : asked.net.opening with
    | some e => rfl
    | none =>
      have hconnecting : asked.net.connecting.isSome = true := by
        simpa [NetworkScript.connects, ho, Option.isSome_iff_ne_none] using hc
      simp [hconnecting]
  | true =>
    rw [hc] at hfin
    obtain ⟨hopen, hh, hb, hn, hup, hdown⟩ := dial_connected endpoint hc
    have hread := openSockets_use hopen (hh ▸ hheader) hfin
    obtain ⟨hopening, hconnecting⟩ :
        asked.net.opening.isNone = true ∧ asked.net.connecting.isSome = false := by
      simpa [NetworkScript.connects] using hc
    simp only [↓reduceIte, hread, hb, hn, hup, hdown, hopening, hconnecting, Bool.true_and,
      Bool.false_or]
    split <;> rfl

theorem openSockets_download {w : World} {fuel : Nat} {url : Bytes} {port : Int32}
    {use : HttpContentData → Bytes} (hfin : Finished ((download fuel url port use).run w)) :
    (endState ((download fuel url port use).run w)).openSockets =
      w.openSockets + if leavesOpen url w.client.mBufferSize w.net then 1 else 0 := by
  unfold download SocketLayer.download at hfin ⊢
  rw [EStateM.run_bind, connectClient_run] at hfin ⊢
  unfold leavesOpen
  cases hp : prepare url .GET with
  | error e => rfl
  | ok request =>
    obtain ⟨header, name⟩ := request
    rw [hp] at hfin
    cases he : w.net.endpoints with
    | nil => rfl
    | cons endpoint rest =>
      rw [he] at hfin
      exact @openSockets_dialled ((w.setRequest header name port).log (.resolve name port))
        endpoint fuel use (prepare_header_ne_nil hp) hfin

def Step.leavesOpen (w : World) (step : Step) : Bool :=
  match step.call with
  | .downloadString url _ => AsioClient.leavesOpen url w.client.mBufferSize step.net
  | .downloadByteData url _ => AsioClient.leavesOpen url w.client.mBufferSize step.net
  | .setBufferSize _ => false

theorem after_eq_some {w w' : World} {step : Step} (h : w.after step = some w') :
    Finished ((step.call.exec step.fuel).run (w.start step.net)) ∧
      endState ((step.call.exec step.fuel).run (w.start step.net)) = w' := by
  unfold World.after at h
  cases hr : (step.call.exec step.fuel).run (w.start step.net) with
  | ok a t =>
    rw [hr] at h
    exact ⟨trivial, Option.some.inj h⟩
  | error e t =>
    rw [hr] at h
    cases e with
    | threw e => exact ⟨trivial, Option.some.inj h⟩
    | running => cases h
    | undefined => cases h

/-- One call adds the socket it leaves open, if any, and takes none away. -/
theorem openSockets_after {w w' : World} {step : Step} (h : w.after step = some w') :
    w'.openSockets = w.openSockets + if step.leavesOpen w then 1 else 0 := by
  obtain ⟨hfin, rfl⟩ := after_eq_some h
  unfold Step.leavesOpen
  cases hc : step.call with
  | downloadString url port =>
    rw [hc] at hfin
    exact openSockets_download hfin
  | downloadByteData url port =>
    rw [hc] at hfin
    exact openSockets_download hfin
  | setBufferSize size => rfl

/-- Every call of the run closes what it opens. -/
def TidyRun : World → List Step → Prop
  | _, [] => True
  | w, step :: rest => step.leavesOpen w = false ∧
      ∀ w', w.after step = some w' → TidyRun w' rest

theorem openSockets_afterAll_eq_zero_iff {w w' : World} {steps : List Step}
    (h : w.afterAll steps = some w') :
    w'.openSockets = 0 ↔ w.openSockets = 0 ∧ TidyRun w steps := by
  induction steps generalizing w with
  | nil =>
    obtain rfl : w = w' := Option.some.inj h
    simp [TidyRun]
  | cons step rest ih =>
    unfold World.afterAll at h
    rw [List.foldlM_cons] at h
    obtain ⟨v, hv, hrest⟩ := Option.bind_eq_some_iff.1 h
    have hstep := openSockets_after hv
    have hall : TidyRun w (step :: rest) ↔ step.leavesOpen w = false ∧ TidyRun v rest := by
      simp only [TidyRun, hv, Option.some.injEq, forall_eq']
    rw [ih hrest, hstep, hall]
    cases step.leavesOpen w with
    | true => simp
    | false => simp

theorem no_socket_left_open_iff {net : NetworkScript} {steps : List Step} {w : World}
    (h : (World.init net).afterAll steps = some w) :
    w.openSockets = 0 ↔ TidyRun (World.init net) steps := by
  have hinit : (World.init net).openSockets = 0 := rfl
  rw [openSockets_afterAll_eq_zero_iff h]
  exact ⟨fun hboth => hboth.2, fun htidy => ⟨hinit, htidy⟩⟩

theorem no_socket_left_open_served :
    let net := NetworkScript.serving [⟨text "H\r\n\r\na", by decide⟩] .eof
    let step : Step := ⟨.downloadByteData (text "http://a/") 80, net, 9⟩
    ∃ w, (World.init net).afterAll [step] = some w ∧ w.openSockets = 0 := by
  intro net step
  have hrun : (World.init net).afterAll [step] = some (endState
      ((step.call.exec step.fuel).run ((World.init net).start step.net))) := rfl
  have htidy : TidyRun (World.init net) [step] := ⟨by decide +kernel, fun _ _ => trivial⟩
  exact ⟨_, hrun, (no_socket_left_open_iff hrun).2 htidy⟩

/-- Two downloads that cannot connect return normally; each leaves its socket open. -/
theorem failed_connects_leave_sockets_open :
    let net := { NetworkScript.serving [] .eof with connecting := some ⟨⟨111, .asioSystem⟩, rfl⟩ }
    let step : Step := ⟨.downloadString (text "http://a/") 80, net, 9⟩
    (∃ w, (step.call.exec step.fuel).run ((World.init net).start net) = .ok [] w ∧
      w.openSockets = 1) ∧
    ∃ w, (World.init net).afterAll [step, step] = some w ∧ w.openSockets = 2 := by
  intro net step
  exact ⟨⟨_, rfl, by decide +kernel⟩, ⟨_, rfl, by decide +kernel⟩⟩

end AsioClient
