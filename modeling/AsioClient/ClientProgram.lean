import AsioClient.HttpContent
import AsioClient.RequestHeaderBuilder
import AsioClient.SocketWorld

/-!
The stateful functions of `HttpClient`, over a layer of sockets: the operations of asio that they
call, in whatever state these run. The receive loop takes fuel and stops with `running` when it
is used up, so that every run ends in a state.
-/

set_option autoImplicit false

namespace AsioClient
open Imperative

structure SocketLayer (σ : Type) where
  client : σ → HttpClient
  update : (HttpClient → HttpClient) → σ → σ
  newSocket : EStateM Halt σ Unit
  resolve : Bytes → Int32 → EStateM Halt σ (List Endpoint)
  isOpen : EStateM Halt σ Bool
  connect : Endpoint → EStateM Halt σ Unit
  writeSome : Bytes → EStateM Halt σ Nat
  waitRead : EStateM Halt σ Unit
  readSome : Nat → EStateM Halt σ Bytes
  close : EStateM Halt σ Unit

namespace HttpClient

/-- The members `connectClient` rewrites before it resolves anything. -/
def setRequest (header endpointUrl : Bytes) (port : Int32) (c : HttpClient) : HttpClient :=
  { c with mHeader := header, currentEndpointUrl := endpointUrl, mPort := port }

def clearErrorCode (c : HttpClient) : HttpClient := { c with mErrorCode := .cleared }

def setBufferSize (size : Int32) (c : HttpClient) : HttpClient := { c with mBufferSize := size }

end HttpClient

inductive Call where
  | downloadString (url : Bytes) (port : Int32)
  | downloadByteData (url : Bytes) (port : Int32)
  | setBufferSize (size : Int32)
  deriving DecidableEq

inductive PublicCall where
  | call (c : Call)
  | readBytesFromSocket
  | readFromSocket
  | getEndpointsFromString (stringUrl : Bytes) (port : Int32)
  deriving DecidableEq

inductive PublicValue where
  | bytes (v : Bytes)
  | content (v : HttpContentData)
  | endpoints (v : List Endpoint)
  deriving DecidableEq

namespace SocketLayer

variable {σ : Type} (L : SocketLayer σ)

def reading {α : Type} (f : HttpClient → α) : EStateM Halt σ α :=
  Imperative.reading fun s => f (L.client s)

/-- `catch (const std::runtime_error&)` turns a failed resolution into no endpoints. -/
def getEndpointsFromString (stringUrl : Bytes) (port : Int32) :
    EStateM Halt σ (List Endpoint) :=
  tryCatch
    (do
      let endpoints ← L.resolve stringUrl port
      if endpoints.isEmpty then pure [] else pure endpoints)
    (fun e =>
      match e with
      | .threw (.systemError _) => pure []
      | e => throw e)

def connectToFirst (endpoints : List Endpoint) : EStateM Halt σ Bool := do
  match endpoints with
  | [] => pure false
  | endpoint :: _ =>
    L.newSocket
    L.connect endpoint
    pure (!(← L.reading (·.mErrorCode.isSet)))

def connectClient (url : Bytes) (port : Int32) (type : RequestType) : EStateM Halt σ Bool := do
  let url ← guarded (checkURL url)
  let testRequestHeader ← guarded (createHeaderRequest url type)
  let parsedurl ← guarded (parseUrl url)
  modify (L.update (HttpClient.setRequest testRequestHeader (parsedurl.headD url) port))
  let name ← L.reading (·.currentEndpointUrl)
  let mPort ← L.reading (·.mPort)
  let endpoints ← L.getEndpointsFromString name mPort
  L.connectToFirst endpoints

/-- `while (!m_errorCode)`: a fresh buffer for every read. -/
def readLoop : Nat → Bytes → EStateM Halt σ Bytes
  | 0, _ => throw .running
  | fuel + 1, collectedBytes => do
    if ← L.reading (·.mErrorCode.isSet) then pure collectedBytes
    else do
      let mBufferSize ← L.reading (·.mBufferSize)
      let size ← guarded (vectorOfSize mBufferSize)
      let received ← L.readSome size
      let failed ← L.reading (·.mErrorCode.isSet)
      let collectedBytes :=
        if !failed && 0 < received.length then collectedBytes ++ received else collectedBytes
      if ← L.reading (fun c => c.mErrorCode.isSet || c.mErrorCode == .eof) then do
        modify (L.update HttpClient.clearErrorCode)
        pure collectedBytes
      else readLoop fuel collectedBytes

/-- The body of `if (getSocket()->is_open())`. The count `write_some` returns is dropped. -/
def exchange (fuel : Nat) : EStateM Halt σ Bytes := do
  let mHeader ← L.reading (·.mHeader)
  let _ ← L.writeSome mHeader
  L.waitRead
  L.readLoop fuel []

def exchangeIfOpen (fuel : Nat) : EStateM Halt σ Bytes := do
  if ← L.isOpen then L.exchange fuel else pure []

def readBytesFromSocket (fuel : Nat) : EStateM Halt σ Bytes := do
  let collectedBytes ← L.exchangeIfOpen fuel
  L.close
  pure collectedBytes

def readFromSocket (fuel : Nat) : EStateM Halt σ HttpContentData := do
  let byteResult ← L.readBytesFromSocket fuel
  pure (extractData byteResult)

/-- What both downloads do; `use` is what they return of the response. -/
def download (fuel : Nat) (url : Bytes) (port : Int32) (use : HttpContentData → Bytes) :
    EStateM Halt σ Bytes := do
  if ← L.connectClient url port .GET then do
    let result ← L.readFromSocket fuel
    pure (use result)
  else pure []

def downloadString (fuel : Nat) (url : Bytes) (port : Int32) : EStateM Halt σ Bytes :=
  L.download fuel url port fun result => getStringResult result.Body

def downloadByteData (fuel : Nat) (url : Bytes) (port : Int32) : EStateM Halt σ Bytes :=
  L.download fuel url port fun result => result.Body

def setBufferSize (size : Int32) : EStateM Halt σ Unit :=
  modify (L.update (HttpClient.setBufferSize size))

def exec (fuel : Nat) : Call → EStateM Halt σ Bytes
  | .downloadString url port => L.downloadString fuel url port
  | .downloadByteData url port => L.downloadByteData fuel url port
  | .setBufferSize size => do
    L.setBufferSize size
    pure []

def execPublic (fuel : Nat) : PublicCall → EStateM Halt σ PublicValue
  | .call c => do
    let v ← L.exec fuel c
    pure (.bytes v)
  | .readBytesFromSocket => do
    let v ← L.readBytesFromSocket fuel
    pure (.bytes v)
  | .readFromSocket => do
    let v ← L.readFromSocket fuel
    pure (.content v)
  | .getEndpointsFromString stringUrl port => do
    let v ← L.getEndpointsFromString stringUrl port
    pure (.endpoints v)

end SocketLayer

end AsioClient
