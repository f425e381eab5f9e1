import AsioClient.ClientProgram
import AsioClient.SocketOps

/-!
asio's sockets over a kernel: the service functions and the members of `basic_socket` and
`basic_stream_socket` that the client calls. The kernel of one call is a script of answers to
its system calls.
-/

set_option autoImplicit false

namespace AsioClient
open Imperative

/-- The answers while a reactor is made. What `::timerfd_create` answers, and `::epoll_ctl` there,
is not looked at. -/
structure ReactorReplies where
  eventfd : Except Errno Unit
  plainEventfd : Except Errno Unit
  pipe : Except Errno Unit
  epollCreate1 : Except Errno Unit
  epollCreate : Except Errno Unit

/-- `eventfd_select_interrupter::open_descriptors`: `EINVAL` brings on a call without flags, and a
pipe takes the place of an `eventfd` that cannot be had. -/
def openDescriptors (r : ReactorReplies) : Except Errno Unit :=
  let eventfd : Except Errno Unit :=
    match r.eventfd with
    | .ok _ => .ok ()
    | .error e => if e.value = 22 then r.plainEventfd else .error e
  match eventfd with
  | .ok _ => .ok ()
  | .error _ => r.pipe

/-- `epoll_reactor::do_epoll_create`, which tries again after `EINVAL` and `ENOSYS`. -/
def doEpollCreate (r : ReactorReplies) : Except Errno Unit :=
  match r.epollCreate1 with
  | .ok _ => .ok ()
  | .error e => if e.value = 22 ∨ e.value = 38 then r.epollCreate else .error e

/-- The constructor of `epoll_reactor`. -/
def makeReactor (r : ReactorReplies) : Except Errno Unit := do
  openDescriptors r
  doEpollCreate r

/-- The answers of the kernel during one call. A `::send` or `::recv` past the end of its list
never returns. -/
structure Kernel where
  addrinfo : AddrInfoReply
  reactor : ReactorReplies
  socket : Except Errno Nat
  epollCtl : Except Errno Unit
  connect : ConnectReplies
  sends : List (Attempt Taken)
  wait : PollReply
  recvs : List (Attempt Arrival)
  firstClose : Except Errno Unit
  secondClose : Except Errno Unit

/-- `base_implementation_type`. -/
structure SocketImpl where
  socket : SocketType
  state : StateType
  deriving DecidableEq, Repr

namespace SocketImpl

def construct : SocketImpl := ⟨none, .none⟩

def isOpen (impl : SocketImpl) : Bool := impl.socket != none

/-- Only `do_open` gives a socket a descriptor, and it makes it a stream. -/
def WellFormed (impl : SocketImpl) : Prop := impl.isOpen = true → impl.state = .stream

end SocketImpl

/-- The process: the client, its sockets, whether its `io_context` has a reactor, the socket
descriptors it holds and the kernel. The descriptors of the reactor are not among them. -/
structure Host where
  client : HttpClient
  impls : List SocketImpl
  reactor : Bool
  descriptors : List Nat
  kernel : Kernel
  trace : List Event

namespace Host

def impl? (h : Host) : Option SocketImpl := h.client.mSocket.bind (h.impls[·]?)

def setErrorCode (ec : ErrorCode) (h : Host) : Host :=
  { h with client := { h.client with mErrorCode := ec } }

def log (e : Event) (h : Host) : Host := { h with trace := h.trace ++ [e] }

def setImpl (impl : SocketImpl) (h : Host) : Host :=
  match h.client.mSocket with
  | some i => { h with impls := h.impls.set i impl }
  | none => h

def newSocket (h : Host) : Host :=
  { h with
    impls := h.impls ++ [.construct]
    client := { h.client with mSocket := some h.impls.length } }

end Host

/-- `EPERM`, for a descriptor `epoll` does not support, counts as success. -/
def registerDescriptor (reply : Except Errno Unit) : Int32 :=
  match reply with
  | .ok _ => 0
  | .error e => if e.value = 1 then 0 else e.value

/-- `do_open`; the `socket_holder` closes a descriptor that could not be registered. -/
def Host.doOpen (impl : SocketImpl) (h : Host) : Host :=
  if impl.isOpen then h.setErrorCode alreadyOpen
  else
    match socketOp h.kernel.socket h.client.mErrorCode with
    | (none, ec) => h.setErrorCode ec
    | (some s, _) =>
      let err := registerDescriptor h.kernel.epollCtl
      if err ≠ 0 then h.setErrorCode ⟨err, .asioSystem⟩
      else
        let opened := (h.setImpl ⟨some s, .stream⟩).log .opened
        { opened.setErrorCode .cleared with descriptors := s :: h.descriptors }

namespace Asio

def implementation : EStateM Halt Host SocketImpl := do
  match ← reading Host.impl? with
  | some impl => pure impl
  | none => throw .undefined

/-- `use_service<reactor>`: the first socket of the `io_context` makes the reactor. -/
def useReactor : EStateM Halt Host Unit := do
  if ← reading (·.reactor) then pure ()
  else
    match ← reading fun h => makeReactor h.kernel.reactor with
    | .ok _ => modify fun h => { h with reactor := true }
    | .error e => throw (.threw (.systemError e.code))

/-- `setSocket(new socket(context))`; the pointer stays as it is if the constructor throws. -/
def newSocket : EStateM Halt Host Unit := do
  useReactor
  modify Host.newSocket

def isOpen : EStateM Halt Host Bool := do
  let impl ← implementation
  pure impl.isOpen

/-- `basic_resolver::resolve`; the error code is its own. -/
def resolve (name : Bytes) (port : Int32) : EStateM Halt Host (List Endpoint) := do
  modify (Host.log (.resolve name port))
  let reply ← reading (·.kernel.addrinfo)
  let (results, ec) := resolveOp reply
  if ec.isSet then throw (.threw (.systemError ec)) else pure results

def syncConnect (endpoint : Endpoint) (impl : SocketImpl) : EStateM Halt Host Unit := do
  modify (Host.log (.connect endpoint))
  match ← reading fun h =>
    AsioClient.syncConnect impl.socket h.kernel.connect h.client.mErrorCode with
  | none => throw .running
  | some ec => modify (Host.setErrorCode ec)

def connect (endpoint : Endpoint) : EStateM Halt Host Unit := do
  let impl ← implementation
  if impl.isOpen then syncConnect endpoint impl
  else do
    modify (Host.doOpen impl)
    if ← reading (·.client.mErrorCode.isSet) then pure ()
    else do
      let impl ← implementation
      syncConnect endpoint impl

def writeSome (buffer : Bytes) : EStateM Halt Host Nat := do
  let impl ← implementation
  let sent ← reading fun h =>
    syncSend1 impl.socket impl.state buffer.length h.kernel.sends h.client.mErrorCode
  match sent with
  | none => throw .running
  | some (n, ec, sends) => do
    modify fun h => { h.setErrorCode ec with kernel := { h.kernel with sends := sends } }
    if 0 < n then modify (Host.log (.sent (buffer.take n))) else pure ()
    pure n

def waitRead : EStateM Halt Host Unit := do
  let impl ← implementation
  modify (Host.log .waitRead)
  let wait ← reading (·.kernel.wait)
  match pollRead impl.socket impl.state wait .cleared with
  | none => throw .running
  | some (_, ec) => if ec.isSet then throw (.threw (.systemError ec)) else pure ()

def readSome (size : Nat) : EStateM Halt Host Bytes := do
  let impl ← implementation
  let received ← reading fun h =>
    syncRecv1 impl.socket impl.state size h.kernel.recvs h.client.mErrorCode
  match received with
  | none => throw .running
  | some (bytes, ec, recvs) => do
    modify fun h => { h.setErrorCode ec with kernel := { h.kernel with recvs := recvs } }
    pure bytes

/-- `basic_socket::close`; the error code is its own. The service constructs the implementation
anew whatever `::close` says. -/
def close : EStateM Halt Host Unit := do
  let impl ← implementation
  match impl.socket with
  | none => modify (Host.setImpl .construct)
  | some s => do
    let (_, ec) ← reading fun h =>
      closeOp impl.socket impl.state h.kernel.firstClose h.kernel.secondClose .cleared
    modify fun h => { h.setImpl .construct with descriptors := h.descriptors.erase s }
    if ec.isSet then throw (.threw (.systemError ec)) else pure ()

end Asio

@[reducible] def asioLayer : SocketLayer Host where
  client := Host.client
  update f h := { h with client := f h.client }
  newSocket := Asio.newSocket
  resolve := Asio.resolve
  isOpen := Asio.isOpen
  connect := Asio.connect
  writeSome := Asio.writeSome
  waitRead := Asio.waitRead
  readSome := Asio.readSome
  close := Asio.close

end AsioClient
