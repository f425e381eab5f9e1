import AsioClient.ClientRuns
import AsioClient.HttpClient

/-!
What one run of `connectClient` does: the request is prepared from the URL alone, then the
script decides between no endpoints, a socket that does not open, a connect that fails and a
connection.
-/

set_option autoImplicit false

namespace AsioClient
open Imperative

def NetworkScript.endpoints (net : NetworkScript) : List Endpoint := endpointsOf net.resolving

theorem getEndpointsFromString_run (name : Bytes) (port : Int32) (w : World) :
    (getEndpointsFromString name port).run w =
      .ok w.net.endpoints (w.log (.resolve name port)) := by
  refine SocketLayer.getEndpointsFromString_run w.net.resolving ?_
  show (resolve name port).run w = _
  have hnet : (w.log (.resolve name port)).net = w.net := rfl
  unfold resolve
  simp only [EStateM.run_bind, run_modify, run_reading, hnet]
  cases w.net.resolving with
  | error e => rfl
  | ok endpoints => rfl

def World.dial (endpoint : Endpoint) (w : World) : World :=
  let tried := w.newSocket.openSocket
  if tried.client.mErrorCode.isSet then tried else tried.syncConnect endpoint

@[simp] theorem World.socket?_newSocket (w : World) : w.newSocket.socket? = some ⟨false⟩ := by
  simp [socket?, newSocket]

theorem connectToFirst_run (endpoint : Endpoint) (rest : List Endpoint) (w : World) :
    (connectToFirst (endpoint :: rest)).run w =
      .ok (!(w.dial endpoint).client.mErrorCode.isSet) (w.dial endpoint) := by
  unfold connectToFirst SocketLayer.connectToFirst SocketLayer.reading
  simp only [EStateM.run_bind, run_modify, connect_run_closed w.socket?_newSocket, run_reading,
    run_pure]
  rfl

def World.withSocket (opened : Bool) (w : World) : World :=
  { w with
    sockets := w.sockets ++ [⟨opened⟩]
    client := { w.client with mSocket := some w.sockets.length } }

@[simp] theorem World.socket?_withSocket (opened : Bool) (w : World) :
    (w.withSocket opened).socket? = some ⟨opened⟩ := by
  simp [withSocket, socket?]

theorem World.newSocket_setOpen (w : World) : w.newSocket.setOpen true = w.withSocket true := by
  simp [newSocket, setOpen, withSocket]

theorem World.dial_eq (endpoint : Endpoint) (w : World) :
    w.dial endpoint =
      match w.net.opening, w.net.connecting with
      | some e, _ => (w.withSocket false).setErrorCode e.code
      | none, some e =>
        (((w.withSocket true).log .opened).log (.connect endpoint)).setErrorCode e.code
      | none, none =>
        (((w.withSocket true).log .opened).log (.connect endpoint)).setErrorCode .cleared := by
  have hset : ∀ (e : Failure) (v : World), (v.setErrorCode e.code).client.mErrorCode.isSet :=
    fun e v => e.isSet
  unfold dial openSocket
  have hnet : w.newSocket.net = w.net := rfl
  rw [hnet]
  cases w.net.opening with
  | some e =>
    simp only [hset, if_true]
    rfl
  | none =>
    have hclear : ∀ v : World, (v.setErrorCode .cleared).client.mErrorCode.isSet = false :=
      fun v => rfl
    simp only [hclear, newSocket_setOpen, Bool.false_eq_true, if_false, syncConnect]
    have hnet' : (((w.withSocket true).log .opened).setErrorCode .cleared).net = w.net := rfl
    rw [hnet']
    cases w.net.connecting with
    | some e => rfl
    | none => rfl

def NetworkScript.connects (net : NetworkScript) : Bool :=
  net.opening.isNone && net.connecting.isNone

theorem World.isSet_dial (endpoint : Endpoint) (w : World) :
    (w.dial endpoint).client.mErrorCode.isSet = !w.net.connects := by
  rw [dial_eq]
  unfold NetworkScript.connects
  cases w.net.opening with
  | some e => simpa [setErrorCode] using e.isSet
  | none =>
    cases w.net.connecting with
    | some e => simpa [setErrorCode] using e.isSet
    | none => rfl

theorem resolveAndConnect_run (header name : Bytes) (port : Int32) (w : World) :
    scriptedLayer.resolveAndConnect.run (w.setRequest header name port) =
      let asked := (w.setRequest header name port).log (.resolve name port)
      match w.net.endpoints with
      | [] => .ok false asked
      | endpoint :: _ => .ok w.net.connects (asked.dial endpoint) := by
  have hname : (w.setRequest header name port).client.currentEndpointUrl = name := rfl
  have hport : (w.setRequest header name port).client.mPort = port := rfl
  have hends : (w.setRequest header name port).net.endpoints = w.net.endpoints := rfl
  unfold SocketLayer.resolveAndConnect SocketLayer.reading
  simp only [EStateM.run_bind, run_reading, hname, hport, getEndpointsFromString_run, hends]
  cases w.net.endpoints with
  | nil => rfl
  | cons endpoint rest =>
    simp only [connectToFirst_run, World.isSet_dial, Bool.not_not]
    rfl

theorem connectClient_run (url : Bytes) (port : Int32) (type : RequestType) (w : World) :
    (connectClient url port type).run w =
      match prepare url type with
      | .error e => .error (.threw e) w
      | .ok (header, name) =>
        let asked := (w.setRequest header name port).log (.resolve name port)
        match w.net.endpoints with
        | [] => .ok false asked
        | endpoint :: _ => .ok w.net.connects (asked.dial endpoint) := by
  refine (SocketLayer.connectClient_run url port type w).trans ?_
  cases prepare url type with
  | error e => rfl
  | ok request => exact resolveAndConnect_run request.1 request.2 port w

end AsioClient
