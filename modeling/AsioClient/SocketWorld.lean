import AsioClient.CppRuntime
import AsioClient.ImperativeRuns

/-!
What the client's calls act on: the `HttpClient` object, the sockets it has created, and the
network. The network of one call is a script: it fixes how every operation of that call turns
out. The operations are asio's, with the error code passed by reference kept in the client.
-/

set_option autoImplicit false

namespace AsioClient
open Imperative

/-- Bytes that arrive together; a stream socket never delivers an empty read. -/
structure Segment where
  bytes : Bytes
  nonempty : bytes ≠ []
  deriving DecidableEq

structure Endpoint where
  address : Bytes
  port : Int32
  deriving DecidableEq, Repr

/-- One `write_some`: it fails, or the kernel takes up to `n` bytes of what it is offered. -/
inductive WriteResult where
  | fails (e : Failure)
  | accepts (n : Nat) (pos : 0 < n)
  deriving DecidableEq

/-- How the operations of one call turn out. `ending` is what `read_some` reports once the
segments are used up; a write past the end of `writes` is taken whole. -/
structure NetworkScript where
  resolving : Except Failure (List Endpoint)
  opening : Option Failure
  connecting : Option Failure
  writes : List WriteResult
  waiting : Option Failure
  reads : List Segment
  ending : Failure
  closing : Option Failure

def loopback : Endpoint := ⟨text "127.0.0.1", 80⟩

def NetworkScript.serving (reads : List Segment) (ending : Failure) : NetworkScript where
  resolving := .ok [loopback]
  opening := none
  connecting := none
  writes := []
  waiting := none
  reads := reads
  ending := ending
  closing := none

/-- `asio::ip::tcp::socket`; nothing but its being open is ever asked for. -/
structure Socket where
  isOpen : Bool
  deriving DecidableEq, Repr

/-- The members of `HttpClient` that some function reads; `mSocket` points into the sockets
created so far and is unset in a new client. -/
structure HttpClient where
  mPort : Int32
  mBufferSize : Int32
  currentEndpointUrl : Bytes
  mHeader : Bytes
  mErrorCode : ErrorCode
  mSocket : Option Nat
  deriving DecidableEq

def HttpClient.init : HttpClient where
  mPort := 80
  mBufferSize := 4096
  currentEndpointUrl := []
  mHeader := []
  mErrorCode := .cleared
  mSocket := none

inductive Event where
  | resolve (name : Bytes) (port : Int32)
  | opened
  | connect (endpoint : Endpoint)
  | sent (data : Bytes)
  | waitRead
  deriving DecidableEq

structure World where
  client : HttpClient
  sockets : List Socket
  net : NetworkScript
  trace : List Event

/-- Why a call stops without a value: an exception, its fuel, or the use of a pointer that
was never set. -/
inductive Halt where
  | threw (e : Exn)
  | running
  | undefined
  deriving DecidableEq

abbrev Exec := EStateM Halt World

def guarded {σ α : Type} : Except Exn α → EStateM Halt σ α
  | .ok a => pure a
  | .error e => throw (.threw e)

section Guarded

variable {σ α : Type}

@[simp] theorem run_guarded_ok (a : α) (s : σ) : (guarded (.ok a)).run s = .ok a s := rfl

@[simp] theorem run_guarded_error (e : Exn) (s : σ) :
    (guarded (.error e) : EStateM Halt σ α).run s = .error (.threw e) s := rfl

theorem keeps_guarded {γ : Type} (f : σ → γ) (r : Except Exn α) : Keeps f (guarded r) := by
  cases r with
  | ok a => exact .pure a
  | error e => exact .throw _

end Guarded

namespace World

def socket? (w : World) : Option Socket := w.client.mSocket.bind (w.sockets[·]?)

def setErrorCode (ec : ErrorCode) (w : World) : World :=
  { w with client := { w.client with mErrorCode := ec } }

def succeed (w : World) : World := w.setErrorCode w.client.mErrorCode.succeed

def log (e : Event) (w : World) : World := { w with trace := w.trace ++ [e] }

def setOpen (b : Bool) (w : World) : World :=
  match w.client.mSocket with
  | some i => { w with sockets := w.sockets.set i ⟨b⟩ }
  | none => w

def newSocket (w : World) : World :=
  { w with
    sockets := w.sockets ++ [⟨false⟩]
    client := { w.client with mSocket := some w.sockets.length } }

end World

def errorIsSet : Exec Bool := reading (·.client.mErrorCode.isSet)

def badDescriptor : ErrorCode := ⟨9, .asioSystem⟩

def isOpen : Exec Bool := do
  match ← reading World.socket? with
  | some s => pure s.isOpen
  | none => throw .undefined

def resolve (name : Bytes) (port : Int32) : Exec (List Endpoint) := do
  modify (World.log (.resolve name port))
  match ← reading (·.net.resolving) with
  | .ok endpoints => pure endpoints
  | .error e => throw (.threw (.systemError e.code))

def World.openSocket (w : World) : World :=
  match w.net.opening with
  | some e => w.setErrorCode e.code
  | none => ((w.setOpen true).log .opened).setErrorCode .cleared

def World.syncConnect (endpoint : Endpoint) (w : World) : World :=
  match w.net.connecting with
  | some e => (w.log (.connect endpoint)).setErrorCode e.code
  | none => (w.log (.connect endpoint)).succeed

/-- `connect` opens the socket first; a failed connect leaves it open. -/
def connect (endpoint : Endpoint) : Exec Unit := do
  if ← isOpen then modify (World.syncConnect endpoint)
  else do
    modify World.openSocket
    if ← errorIsSet then pure () else modify (World.syncConnect endpoint)

def accept (n : Nat) (buffer : Bytes) (rest : List WriteResult) (w : World) : World :=
  { w.succeed with
    net := { w.net with writes := rest }
    trace := w.trace ++ [.sent (buffer.take n)] }

def writeSome (buffer : Bytes) : Exec Nat := do
  if !(← isOpen) then do
    modify (World.setErrorCode badDescriptor)
    pure 0
  else if buffer = [] then do
    modify World.succeed
    pure 0
  else do
    match ← reading (·.net.writes) with
    | .fails e :: rest =>
      modify fun w => { w.setErrorCode e.code with net := { w.net with writes := rest } }
      pure 0
    | .accepts n _ :: rest =>
      modify (accept n buffer rest)
      pure (min n buffer.length)
    | [] =>
      modify (accept buffer.length buffer [])
      pure buffer.length

def waitRead : Exec Unit := do
  let opened ← isOpen
  modify (World.log .waitRead)
  if !opened then throw (.threw (.systemError badDescriptor))
  else do
    match ← reading (·.net.waiting) with
    | some e => throw (.threw (.systemError e.code))
    | none => pure ()

def Segment.rest (size : Nat) (seg : Segment) : List Segment :=
  if h : seg.bytes.drop size ≠ [] then [⟨seg.bytes.drop size, h⟩] else []

def readSome (size : Nat) : Exec Bytes := do
  if !(← isOpen) then do
    modify (World.setErrorCode badDescriptor)
    pure []
  else if size = 0 then do
    modify World.succeed
    pure []
  else do
    match ← reading (·.net.reads) with
    | seg :: later =>
      modify fun w => { w.succeed with net := { w.net with reads := seg.rest size ++ later } }
      pure (seg.bytes.take size)
    | [] =>
      modify fun w => w.setErrorCode w.net.ending.code
      pure []

/-- `close()`: the descriptor is gone even when an error is reported. -/
def close : Exec Unit := do
  if ← isOpen then do
    modify (World.setOpen false)
    match ← reading (·.net.closing) with
    | some e => throw (.threw (.systemError e.code))
    | none => pure ()
  else pure ()

section Runs

variable {w : World}

theorem isOpen_run {s : Socket} (h : w.socket? = some s) :
    isOpen.run w = .ok s.isOpen w := by
  simp [isOpen, h]

theorem isOpen_run_none (h : w.socket? = none) : isOpen.run w = .error .undefined w := by
  unfold isOpen
  simp only [EStateM.run_bind, run_reading, h, run_throw]

theorem connect_run_closed {endpoint : Endpoint} (h : w.socket? = some ⟨false⟩) :
    (connect endpoint).run w = .ok ()
      (if w.openSocket.client.mErrorCode.isSet then w.openSocket
        else w.openSocket.syncConnect endpoint) := by
  simp only [connect, EStateM.run_bind, isOpen_run h, Bool.false_eq_true, ↓reduceIte,
    run_modify, errorIsSet, run_reading]
  split <;> rfl

def World.wrote (ec : ErrorCode) (rest : List WriteResult) (events : List Event) (w : World) :
    World :=
  { w.setErrorCode ec with
    net := { w.net with writes := rest }
    trace := w.trace ++ events }

theorem writeSome_run (h : w.socket? = some ⟨true⟩) {buffer : Bytes} (hb : buffer ≠ []) :
    (writeSome buffer).run w =
      match w.net.writes with
      | .fails e :: rest => .ok 0 (w.wrote e.code rest [])
      | .accepts n _ :: rest => .ok (min n buffer.length)
          (w.wrote w.client.mErrorCode.succeed rest [.sent (buffer.take n)])
      | [] => .ok buffer.length (w.wrote w.client.mErrorCode.succeed [] [.sent buffer]) := by
  simp only [writeSome, EStateM.run_bind, isOpen_run h, Bool.not_true, Bool.false_eq_true,
    ↓reduceIte, hb, run_reading]
  cases hw : w.net.writes with
  | nil =>
    show EStateM.Result.ok _ (accept buffer.length buffer [] w) = _
    rw [accept, List.take_length]
    rfl
  | cons first rest =>
    cases first with
    | fails e =>
      simp only [World.wrote, List.append_nil]
      rfl
    | accepts n pos => rfl

/-- A write that does not fail clears the error code, whatever part of the buffer is taken. -/
theorem writeSome_accepted (h : w.socket? = some ⟨true⟩)
    (hok : ∀ e rest, w.net.writes ≠ .fails e :: rest) (buffer : Bytes) :
    ∃ n ec rest events, (writeSome buffer).run w = .ok n (w.wrote ec rest events) ∧
      ec.isSet = false := by
  by_cases hb : buffer = []
  · subst hb
    refine ⟨0, w.client.mErrorCode.succeed, w.net.writes, [], ?_, rfl⟩
    simp only [writeSome, EStateM.run_bind, isOpen_run h, World.wrote, List.append_nil]
    rfl
  · rw [writeSome_run h hb]
    cases hw : w.net.writes with
    | nil => exact ⟨_, _, _, _, rfl, rfl⟩
    | cons first rest =>
      cases first with
      | fails e => exact absurd hw (hok e rest)
      | accepts n pos => exact ⟨_, _, _, _, rfl, rfl⟩

theorem waitRead_run (h : w.socket? = some ⟨true⟩) :
    waitRead.run w =
      match w.net.waiting with
      | some e => .error (.threw (.systemError e.code)) (w.log .waitRead)
      | none => .ok ⟨⟩ (w.log .waitRead) := by
  simp only [waitRead, EStateM.run_bind, isOpen_run h, run_modify, Bool.not_true,
    Bool.false_eq_true, ↓reduceIte, run_reading]
  have hnet : (w.log .waitRead).net = w.net := rfl
  rw [hnet]
  cases w.net.waiting with
  | none => rfl
  | some e => rfl

theorem readSome_run (h : w.socket? = some ⟨true⟩) {size : Nat} (hsize : size ≠ 0) :
    (readSome size).run w =
      match w.net.reads with
      | seg :: later => .ok (seg.bytes.take size)
          { w.succeed with net := { w.net with reads := seg.rest size ++ later } }
      | [] => .ok [] (w.setErrorCode w.net.ending.code) := by
  simp only [readSome, EStateM.run_bind, isOpen_run h, Bool.not_true, Bool.false_eq_true,
    ↓reduceIte, hsize, run_reading]
  cases w.net.reads with
  | nil => rfl
  | cons seg later => rfl

@[simp] theorem World.client_setOpen (opened : Bool) (w : World) :
    (w.setOpen opened).client = w.client := by
  unfold setOpen
  split <;> rfl

@[simp] theorem World.net_setOpen (opened : Bool) (w : World) :
    (w.setOpen opened).net = w.net := by
  unfold setOpen
  split <;> rfl

@[simp] theorem World.trace_setOpen (opened : Bool) (w : World) :
    (w.setOpen opened).trace = w.trace := by
  unfold setOpen
  split <;> rfl

theorem World.socket?_setOpen {s : Socket} (h : w.socket? = some s) (opened : Bool) :
    (w.setOpen opened).socket? = some ⟨opened⟩ := by
  unfold World.socket? at h ⊢
  obtain ⟨i, hi, hs⟩ := Option.bind_eq_some_iff.1 h
  have hlt : i < w.sockets.length := (List.getElem?_eq_some_iff.1 hs).1
  simp [World.setOpen, hi, hlt]

theorem close_run (h : w.socket? = some ⟨true⟩) :
    close.run w =
      match w.net.closing with
      | some e => .error (.threw (.systemError e.code)) (w.setOpen false)
      | none => .ok ⟨⟩ (w.setOpen false) := by
  simp only [close, EStateM.run_bind, isOpen_run h, ↓reduceIte, run_modify, run_reading,
    World.net_setOpen]
  cases w.net.closing with
  | none => rfl
  | some e => rfl

end Runs

end AsioClient
