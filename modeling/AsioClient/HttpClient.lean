import AsioClient.ClientProgram

/-!
The client over the scripted network, and its runs: calls, one after the other, each under its
own script.
-/

set_option autoImplicit false

namespace AsioClient
open Imperative

@[reducible] def scriptedLayer : SocketLayer World where
  client := World.client
  update f w := { w with client := f w.client }
  newSocket := modify World.newSocket
  resolve := resolve
  isOpen := isOpen
  connect := connect
  writeSome := writeSome
  waitRead := waitRead
  readSome := readSome
  close := close

def World.setRequest (header endpointUrl : Bytes) (port : Int32) (w : World) : World :=
  { w with client := w.client.setRequest header endpointUrl port }

abbrev getEndpointsFromString : Bytes → Int32 → Exec (List Endpoint) :=
  scriptedLayer.getEndpointsFromString

abbrev connectToFirst : List Endpoint → Exec Bool := scriptedLayer.connectToFirst

abbrev connectClient : Bytes → Int32 → RequestType → Exec Bool := scriptedLayer.connectClient

abbrev readLoop : Nat → Bytes → Exec Bytes := scriptedLayer.readLoop

abbrev exchange : Nat → Exec Bytes := scriptedLayer.exchange

abbrev exchangeIfOpen : Nat → Exec Bytes := scriptedLayer.exchangeIfOpen

abbrev readBytesFromSocket : Nat → Exec Bytes := scriptedLayer.readBytesFromSocket

abbrev readFromSocket : Nat → Exec HttpContentData := scriptedLayer.readFromSocket

abbrev download : Nat → Bytes → Int32 → (HttpContentData → Bytes) → Exec Bytes :=
  scriptedLayer.download

abbrev downloadString : Nat → Bytes → Int32 → Exec Bytes := scriptedLayer.downloadString

abbrev downloadByteData : Nat → Bytes → Int32 → Exec Bytes := scriptedLayer.downloadByteData

abbrev setBufferSize : Int32 → Exec Unit := scriptedLayer.setBufferSize

abbrev Call.exec (fuel : Nat) (call : Call) : Exec Bytes := scriptedLayer.exec fuel call

structure Step where
  call : Call
  net : NetworkScript
  fuel : Nat

namespace World

def init (net : NetworkScript) : World := ⟨.init, [], net, []⟩

/-- A call starts: the network follows its script and nothing has been observed yet. -/
def start (net : NetworkScript) (w : World) : World := { w with net := net, trace := [] }

def after (w : World) (step : Step) : Option World :=
  match (step.call.exec step.fuel).run (w.start step.net) with
  | .ok _ w' => some w'
  | .error (.threw _) w' => some w'
  | .error .running _ => none
  | .error .undefined _ => none

def afterAll : World → List Step → Option World := List.foldlM after

end World

end AsioClient
