import AsioClient.SocketWorld

/-!
The functions of asio's `socket_ops` that a synchronous client ends up in, for Linux. A system
call is answered by the kernel; what it answers is passed in. A blocking call for which no answer
is left never returns, and neither does a `::poll` that is answered with `never`.
-/

set_option autoImplicit false

namespace AsioClient

structure Errno where
  value : Int32
  nonzero : (value != 0) = true
  deriving DecidableEq

namespace Errno

def code (e : Errno) : ErrorCode := ⟨e.value, .asioSystem⟩

def failure (e : Errno) : Failure := ⟨e.code, e.nonzero⟩

@[simp] theorem isSet_code (e : Errno) : e.code.isSet = true := e.nonzero

@[simp] theorem code_failure (e : Errno) : e.failure.code = e.code := rfl

end Errno

-- Error codes of `asio::error`, with the values Linux gives them.
def wouldBlock : ErrorCode := ⟨11, .asioSystem⟩
def tryAgain : ErrorCode := ⟨11, .asioSystem⟩
def inProgress : ErrorCode := ⟨115, .asioSystem⟩
def noBufferSpace : Failure := ⟨⟨105, .asioSystem⟩, rfl⟩
def alreadyOpen : ErrorCode := ⟨1, .misc⟩

/-- The flags of `socket_ops::state_type` that some function here tests or sets. -/
structure StateType where
  userSetNonBlocking : Bool
  internalNonBlocking : Bool
  streamOriented : Bool
  deriving DecidableEq, Repr

def StateType.none : StateType := ⟨false, false, false⟩

def StateType.stream : StateType := ⟨false, false, true⟩

/-- A native handle; `invalid_socket` is `none`. -/
abbrev SocketType := Option Nat

def getLastError {α : Type} (reply : Except Errno α) (ec : ErrorCode) : ErrorCode :=
  match reply with
  | .ok _ => ec.succeed
  | .error e => e.code

inductive PollReply where
  | ready
  | timedOut
  | fails (e : Errno)
  | never
  deriving DecidableEq

def poll (reply : PollReply) (ec : ErrorCode) : Option (Int × ErrorCode) :=
  match reply with
  | .ready => some (1, ec.succeed)
  | .timedOut => some (0, ec.succeed)
  | .fails e => some (-1, e.code)
  | .never => none

def pollReady (s : SocketType) (state : StateType) (reply : PollReply) (ec : ErrorCode) :
    Option (Int × ErrorCode) :=
  if s = none then some (-1, badDescriptor)
  else (poll reply ec).map fun (result, ec) =>
    if result = 0 ∧ state.userSetNonBlocking then (result, wouldBlock) else (result, ec)

def pollRead (s : SocketType) (state : StateType) (reply : PollReply) (ec : ErrorCode) :
    Option (Int × ErrorCode) := pollReady s state reply ec

def pollWrite (s : SocketType) (state : StateType) (reply : PollReply) (ec : ErrorCode) :
    Option (Int × ErrorCode) := pollReady s state reply ec

/-- Unlike `pollRead` and `pollWrite` it does not look at the state. -/
def pollConnect (s : SocketType) (reply : PollReply) (ec : ErrorCode) :
    Option (Int × ErrorCode) :=
  if s = none then some (-1, badDescriptor) else poll reply ec

/-- One try of a system call, and how the `::poll` turns out that waits for another try. -/
structure Attempt (α : Type) where
  reply : Except Errno α
  poll : PollReply

/-- What `::recv` finds: bytes that have arrived, or that the peer has shut down. -/
inductive Arrival where
  | data (seg : Segment)
  | shutdown
  deriving DecidableEq

/-- The kernel takes at least one of the bytes it is offered. -/
abbrev Taken := { n : Nat // 0 < n }

def recv1 (size : Nat) : Except Errno Arrival → Option Bytes
  | .ok (.data seg) => some (seg.bytes.take size)
  | .ok .shutdown => some []
  | .error _ => none

def send1 (size : Nat) : Except Errno Taken → Option Nat
  | .ok n => some (min n.1 size)
  | .error _ => none

/-- The bytes of the arrival that did not fit wait for the next `::recv`. -/
def Attempt.rest (size : Nat) (a : Attempt Arrival) : List (Attempt Arrival) :=
  match a.reply with
  | .ok (.data seg) => (seg.rest size).map fun seg => ⟨.ok (.data seg), a.poll⟩
  | _ => []

/-- An error after which neither loop tries again. -/
def finalError (state : StateType) (ec : ErrorCode) : Bool :=
  state.userSetNonBlocking || (ec != wouldBlock && ec != tryAgain)

/-- `for (;;)` in `sync_recv1` and `sync_send1`: the last try, the error code behind it and the
answers left. `wait` is the poll between two tries. -/
def retryLoop {α : Type} (wait : PollReply → ErrorCode → Option (Int × ErrorCode))
    (state : StateType) :
    List (Attempt α) → ErrorCode → Option (Attempt α × ErrorCode × List (Attempt α))
  | [], _ => none
  | a :: later, ec =>
    let ec := getLastError a.reply ec
    match a.reply with
    | .ok _ => some (a, ec, later)
    | .error _ =>
      if finalError state ec then some (a, ec, later)
      else
        match wait a.poll ec with
        | none => none
        | some (result, ec) =>
          if result < 0 then some (a, ec, later) else retryLoop wait state later ec

/-- The bytes read, the error code and the answers left. Like `sync_send1` it polls as if the
socket had no flags. -/
def syncRecv1 (s : SocketType) (state : StateType) (size : Nat)
    (attempts : List (Attempt Arrival)) (ec : ErrorCode) :
    Option (Bytes × ErrorCode × List (Attempt Arrival)) :=
  if s = none then some ([], badDescriptor, attempts)
  else if size = 0 ∧ state.streamOriented then some ([], ec.succeed, attempts)
  else
    match retryLoop (pollRead s .none) state attempts ec with
    | none => none
    | some (a, ec, later) =>
      match recv1 size a.reply with
      | none => some ([], ec, later)
      | some bytes =>
        if state.streamOriented && bytes.isEmpty then some ([], .eof, later)
        else some (bytes, ec, a.rest size ++ later)

def syncSend1 (s : SocketType) (state : StateType) (size : Nat)
    (attempts : List (Attempt Taken)) (ec : ErrorCode) :
    Option (Nat × ErrorCode × List (Attempt Taken)) :=
  if s = none then some (0, badDescriptor, attempts)
  else if size = 0 ∧ state.streamOriented then some (0, ec.succeed, attempts)
  else
    match retryLoop (pollWrite s .none) state attempts ec with
    | none => none
    | some (a, ec, later) =>
      match send1 size a.reply with
      | none => some (0, ec, later)
      | some n => some (n, ec, later)

/-- The answers to one `sync_connect`: `::connect`, the `::poll` that waits for it, and the
`::getsockopt` that asks how it went. -/
structure ConnectReplies where
  connect : Except Errno Unit
  poll : PollReply
  sockError : Except Errno Int32

def connectOp (s : SocketType) (reply : Except Errno Unit) (ec : ErrorCode) : ErrorCode :=
  if s = none then badDescriptor
  else
    match reply with
    | .ok _ => getLastError reply ec
    | .error e => if e.code = tryAgain then noBufferSpace.code else e.code

/-- `getsockopt(s, 0, SOL_SOCKET, SO_ERROR, ...)`; `none` is `socket_error_retval`. -/
def getsockopt (s : SocketType) (reply : Except Errno Int32) (ec : ErrorCode) :
    Option Int32 × ErrorCode :=
  if s = none then (none, badDescriptor)
  else
    match reply with
    | .ok value => (some value, getLastError reply ec)
    | .error _ => (none, getLastError reply ec)

def syncConnect (s : SocketType) (replies : ConnectReplies) (ec : ErrorCode) :
    Option ErrorCode :=
  let ec := connectOp s replies.connect ec
  if ec ≠ inProgress ∧ ec ≠ wouldBlock then some ec
  else
    match pollConnect s replies.poll ec with
    | none => none
    | some (result, ec) =>
      if result < 0 then some ec
      else
        match getsockopt s replies.sockError ec with
        | (none, ec) => some ec
        | (some connectError, _) => some ⟨connectError, .asioSystem⟩

def socketOp (reply : Except Errno Nat) (ec : ErrorCode) : SocketType × ErrorCode :=
  match reply with
  | .ok s => (some s, getLastError reply ec)
  | .error _ => (none, getLastError reply ec)

/-- `socket_ops::close` with `destruction` false: the descriptor is put back into blocking mode
and closed a second time if the first `::close` would have blocked. -/
def closeOp (s : SocketType) (state : StateType) (first second : Except Errno Unit)
    (ec : ErrorCode) : StateType × ErrorCode :=
  if s = none then (state, ec)
  else
    let ec := getLastError first ec
    match first with
    | .ok _ => (state, ec)
    | .error _ =>
      if ec = wouldBlock ∨ ec = tryAgain then
        ({ state with userSetNonBlocking := false, internalNonBlocking := false },
          getLastError second ec)
      else (state, ec)

inductive AddressFamily where
  | inet | inet6 | other
  deriving DecidableEq, Repr

structure AddrInfo where
  family : AddressFamily
  endpoint : Endpoint
  deriving DecidableEq, Repr

structure AddrInfoReply where
  error : Int32
  errno : Int32
  addressInfo : List AddrInfo
  deriving DecidableEq, Repr

/-- The constants are those of glibc. -/
def translateAddrinfoError (error errno : Int32) : ErrorCode :=
  match error.toInt with
  | 0 => .cleared
  | -3 => ⟨2, .netdb⟩ -- `EAI_AGAIN`: `host_not_found_try_again`
  | -1 => ⟨22, .asioSystem⟩ -- `EAI_BADFLAGS`: `invalid_argument`
  | -4 => ⟨3, .netdb⟩ -- `EAI_FAIL`: `no_recovery`
  | -6 => ⟨97, .asioSystem⟩ -- `EAI_FAMILY`: `address_family_not_supported`
  | -10 => ⟨12, .asioSystem⟩ -- `EAI_MEMORY`: `no_memory`
  | -2 | -9 | -5 => ⟨1, .netdb⟩ -- `EAI_NONAME` and two more: `host_not_found`
  | -8 => ⟨-8, .addrinfo⟩ -- `EAI_SERVICE`: `service_not_found`
  | -7 => ⟨-7, .addrinfo⟩ -- `EAI_SOCKTYPE`: `socket_type_not_supported`
  | _ => ⟨errno, .asioSystem⟩

/-- `basic_resolver_results::create`: entries of other address families are skipped. -/
def createResults (addressInfo : List AddrInfo) : List Endpoint :=
  (addressInfo.filter fun info => info.family = .inet ∨ info.family = .inet6).map (·.endpoint)

def resolveOp (reply : AddrInfoReply) : List Endpoint × ErrorCode :=
  let ec := translateAddrinfoError reply.error reply.errno
  if ec.isSet then ([], ec) else (createResults reply.addressInfo, ec)

end AsioClient
