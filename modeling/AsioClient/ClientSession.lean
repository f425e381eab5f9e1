import AsioClient.KernelScript
import AsioClient.RequestShape

/-!
What a client over asio is to its callers, without its sockets, its buffer and its loop. A session
remembers a buffer size, the last error, whether there is a socket to read from, and how many
descriptors it has lost; each public function is told from these and the kernel's answers.
-/

set_option autoImplicit false

namespace AsioClient
open Imperative

abbrev Prepared := { header : Bytes // header ≠ [] }

/-- The client's socket. While it is open it stands ready to send the last request prepared. -/
inductive SessionSocket where
  | unset
  | closed
  | opened (request : Prepared)
  deriving DecidableEq

def SessionSocket.ask (request : Prepared) : SessionSocket → SessionSocket
  | .opened _ => .opened request
  | other => other

structure Session where
  mBufferSize : Int32
  error : Option Failure
  socket : SessionSocket
  reactor : Bool
  leaked : Nat
  trace : List Event

def WriteResult.failure : WriteResult → Option Failure
  | .fails e => some e
  | .accepts _ _ => none

def WriteResult.sent (buffer : Bytes) : WriteResult → List Event
  | .fails _ => []
  | .accepts n _ => [.sent (buffer.take n)]

namespace Kernel

def endpoints (k : Kernel) : List Endpoint := endpointsOf k.resolving

/-- The failure of `new socket(context)`, where the reactor may be there already. -/
def making (made : Bool) (k : Kernel) : Option Failure :=
  if made then none
  else
    match makeReactor k.reactor with
    | .ok _ => none
    | .error e => some e.failure

def stream (k : Kernel) : Option Bytes :=
  (arrivals k.recvs).map fun r => r.1.flatMap Segment.bytes

/-- What the receive loop comes to. An empty buffer never fills. -/
def received (mBufferSize : Int32) (k : Kernel) : Option (Except Exn Bytes) :=
  if mBufferSize.toInt < 0 then some (.error .lengthError)
  else if mBufferSize = 0 then none
  else k.stream.map .ok

/-- What is read behind a write; `none` if that never comes to an end. A write that fails is not
reported, but nothing is read then. -/
def answer (first : WriteResult) (mBufferSize : Int32) (k : Kernel) : Option (Except Exn Bytes) :=
  if k.wait.answers then
    match k.wait.failure, first.failure with
    | some e, _ => some (.error (.systemError e.code))
    | none, some _ => some (.ok [])
    | none, none => k.received mBufferSize
  else none

end Kernel

def settled {σ α : Type} : Option (Except Exn α) → EStateM Halt σ α
  | some r => guarded r
  | none => throw .running

namespace Session

def init : Session := ⟨HttpClient.init.mBufferSize, none, .unset, false, 0, []⟩

def held (s : Session) : Nat :=
  match s.socket with
  | .opened _ => s.leaked + 1
  | _ => s.leaked

def start (s : Session) : Session := { s with trace := [] }

def log (events : List Event) (s : Session) : Session := { s with trace := s.trace ++ events }

def report (e : Option Failure) (s : Session) : Session := { s with error := e }

def ask (request : Prepared) (name : Bytes) (port : Int32) (s : Session) : Session :=
  { s with socket := s.socket.ask request }.log [.resolve name port]

@[simp] theorem held_ask (request : Prepared) (name : Bytes) (port : Int32) (s : Session) :
    (s.ask request name port).held = s.held := by
  unfold held ask log
  cases hs : s.socket with
  | unset => rfl
  | closed => rfl
  | opened old => rfl

/-- A new socket takes the place of the old one, whose descriptor is lost. -/
def renew (s : Session) : Session := { s with socket := .closed, reactor := true, leaked := s.held }

def dial (request : Prepared) (endpoint : Endpoint) (s : Session) : Session :=
  { s with socket := .opened request, error := none }.log [.opened, .connect endpoint]

def hangUp (s : Session) : Session := { s with socket := .closed }

def exchange (k : Kernel) (request : Prepared) : EStateM Halt Session Bytes :=
  match written k.sends with
  | none => throw .running
  | some first => do
    modify fun s => (s.log (first.sent request.1 ++ [.waitRead])).report first.failure
    let mBufferSize ← reading (·.mBufferSize)
    settled (k.answer first mBufferSize)

def close (k : Kernel) : EStateM Halt Session Unit := do
  modify hangUp
  match k.closing with
  | some e => throw (.threw (.systemError e.code))
  | none => pure ()

def readBytes (k : Kernel) : EStateM Halt Session Bytes := do
  match ← reading (·.socket) with
  | .unset => throw .undefined
  | .closed => pure []
  | .opened request => do
    let bytes ← exchange k request
    close k
    pure bytes

def newSocket (k : Kernel) : EStateM Halt Session Unit := do
  match ← reading fun s => k.making s.reactor with
  | some e => throw (.threw (.systemError e.code))
  | none => modify renew

/-- A connect that fails leaves the socket open. -/
def connect (k : Kernel) (request : Prepared) (endpoint : Endpoint) :
    EStateM Halt Session Bool := do
  match k.opening with
  | some e => do
    modify (report (some e))
    pure false
  | none => do
    modify (dial request endpoint)
    if k.connect.answers then do
      modify (report k.connect.failure)
      pure k.connect.failure.isNone
    else throw .running

def connectToFirst (k : Kernel) (request : Prepared) :
    List Endpoint → EStateM Halt Session Bool
  | [] => pure false
  | endpoint :: _ => do
    newSocket k
    connect k request endpoint

theorem connectToFirst_run (k : Kernel) (request : Prepared) (endpoint : Endpoint)
    (rest : List Endpoint) (s : Session) :
    (connectToFirst k request (endpoint :: rest)).run s =
      match k.making s.reactor, k.opening with
      | some e, _ => .error (.threw (.systemError e.code)) s
      | none, some e => .ok false (s.renew.report (some e))
      | none, none =>
        if k.connect.answers then
          .ok k.connect.failure.isNone
            ((s.renew.dial request endpoint).report k.connect.failure)
        else .error .running (s.renew.dial request endpoint) := by
  unfold connectToFirst newSocket connect
  simp only [EStateM.run_bind, run_reading]
  cases k.making s.reactor with
  | some e => rfl
  | none =>
    simp only [run_modify]
    cases k.opening with
    | some e => rfl
    | none =>
      simp only [EStateM.run_bind, run_modify]
      cases k.connect.answers with
      | true => rfl
      | false => rfl

end Session

def prepareRequest (url : Bytes) : Except Exn (Prepared × Bytes) :=
  match hp : prepare url .GET with
  | .error e => .error e
  | .ok (header, name) => .ok (⟨header, prepare_header_ne_nil hp⟩, name)

theorem prepareRequest_eq (url : Bytes) :
    prepare url .GET = (prepareRequest url).map fun r => (r.1.1, r.2) := by
  unfold prepareRequest
  split
  · rename_i e hp
    exact hp
  · rename_i header name hp
    exact hp

namespace Session

def download (k : Kernel) (url : Bytes) (port : Int32) (use : HttpContentData → Bytes) :
    EStateM Halt Session Bytes := do
  let (request, name) ← guarded (prepareRequest url)
  modify (ask request name port)
  if ← connectToFirst k request k.endpoints then do
    let bytes ← readBytes k
    pure (use (extractData bytes))
  else pure []

def exec (k : Kernel) : Call → EStateM Halt Session Bytes
  | .downloadString url port => download k url port fun result => getStringResult result.Body
  | .downloadByteData url port => download k url port fun result => result.Body
  | .setBufferSize size => do
    modify fun s => { s with mBufferSize := size }
    pure []

def execPublic (k : Kernel) : PublicCall → EStateM Halt Session PublicValue
  | .call c => do
    let v ← exec k c
    pure (.bytes v)
  | .readBytesFromSocket => do
    let v ← readBytes k
    pure (.bytes v)
  | .readFromSocket => do
    let v ← readBytes k
    pure (.content (extractData v))
  | .getEndpointsFromString stringUrl port => do
    modify (log [.resolve stringUrl port])
    pure (.endpoints k.endpoints)

end Session

end AsioClient
