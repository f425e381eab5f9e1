import AsioClient.AsioRefinement
import AsioClient.SocketLedger

/-!
Runs of the client over asio and a kernel, each call under its own answers, beside the runs
over the scripts read off them. A call is any public function.
-/

set_option autoImplicit false

namespace AsioClient
open Imperative

structure HostStep where
  call : Call
  kernel : Kernel
  fuel : Nat

structure HostPublicStep where
  call : PublicCall
  kernel : Kernel
  fuel : Nat

structure PublicStep where
  call : PublicCall
  net : NetworkScript
  fuel : Nat

def Halt.ends : Halt → Bool
  | .threw _ => false
  | .running => true
  | .undefined => true

/-- The error code as a caller can tell it: a success is a success in every category. -/
def ErrorCode.reported (ec : ErrorCode) : Option ErrorCode := if ec.isSet then some ec else none

/-- What shows of the state behind a call: the error it leaves, the socket descriptors held, and
what has gone over the network. -/
structure Seen where
  error : Option ErrorCode
  held : Nat
  events : List Event

namespace Host

def init (k : Kernel) : Host := ⟨.init, [], false, [], k, []⟩

def start (k : Kernel) (h : Host) : Host := { h with kernel := k, trace := [] }

def ledger (h : Host) : Option Nat × List SocketImpl × List Nat :=
  (h.client.mSocket, h.impls, h.descriptors)

def exec (h : Host) (step : HostStep) : EStateM.Result Halt Host Bytes :=
  (asioLayer.exec step.fuel step.call).run (h.start step.kernel)

def execPublic (h : Host) (step : HostPublicStep) : EStateM.Result Halt Host PublicValue :=
  (asioLayer.execPublic step.fuel step.call).run (h.start step.kernel)

def afterPublic (h : Host) (step : HostPublicStep) : Option Host :=
  cameBack Halt.ends (h.execPublic step)

def afterAllPublic : Host → List HostPublicStep → Option Host := List.foldlM afterPublic

def seen (h : Host) : Seen := ⟨h.client.mErrorCode.reported, h.descriptors.length, h.trace⟩

/-- A run, up to the first call that never comes back or uses an unset pointer. -/
def observations : Host → List HostPublicStep → List (Except Halt PublicValue × Seen) :=
  observedRun execPublic Halt.ends seen

end Host

namespace World

def execPublic (w : World) (step : PublicStep) : EStateM.Result Halt World PublicValue :=
  (scriptedLayer.execPublic step.fuel step.call).run (w.start step.net)

def seen (w : World) : Seen := ⟨w.client.mErrorCode.reported, w.openSockets, w.trace⟩

def observations : World → List PublicStep → List (Except Halt PublicValue × Seen) :=
  observedRun execPublic Halt.ends seen

end World

theorem SameReport.reported_eq {a b : ErrorCode} (h : SameReport a b) :
    a.reported = b.reported := by
  unfold ErrorCode.reported
  rw [h.isSet_eq]
  cases hb : b.isSet with
  | false => rfl
  | true => rw [h.eq_of_isSet (h.isSet_eq.trans hb)]

theorem Follows.length_descriptors {P : Kernel → NetworkScript → Prop} {h : Host} {w : World}
    (hf : Follows P h w) : h.descriptors.length = w.openSockets := by
  unfold World.openSockets
  rw [hf.held.length_eq, ← hf.sockets, List.countP_map]
  generalize h.impls = impls
  induction impls with
  | nil => rfl
  | cons impl rest ih =>
    cases hs : impl.socket with
    | none =>
      have hclosed : impl.socketOf.isOpen = false := by
        simp [SocketImpl.socketOf, SocketImpl.isOpen, hs]
      rw [List.filterMap_cons_none hs, ih, List.countP_cons_of_neg]
      simp [hclosed]
    | some s =>
      have hopen : impl.socketOf.isOpen = true := by
        simp [SocketImpl.socketOf, SocketImpl.isOpen, hs]
      rw [List.filterMap_cons_some hs, List.length_cons, ih, List.countP_cons_of_pos]
      exact hopen

theorem Follows.seen_eq {P : Kernel → NetworkScript → Prop} {h : Host} {w : World}
    (hf : Follows P h w) : h.seen = w.seen := by
  unfold Host.seen World.seen
  rw [hf.client.error.reported_eq, hf.length_descriptors, hf.trace]

def Agrees : Host → World → Prop := Follows fun _ _ => True

theorem agrees_init (k : Kernel) (net : NetworkScript) : Agrees (Host.init k) (World.init net) where
  client := ⟨rfl, rfl, rfl, rfl, .refl _, rfl⟩
  sockets := rfl
  wellFormed := fun impl hmem => by cases hmem
  held := .nil
  trace := rfl
  net := trivial

def HostPublicStep.script (step : HostPublicStep) : Option PublicStep :=
  step.kernel.script.map fun net => ⟨step.call, net, step.fuel⟩

theorem execPublic_agrees {h : Host} {w : World} (hf : Agrees h w) {step : HostPublicStep}
    {script : PublicStep} (hscript : step.script = some script) :
    SameOutcome (fun _ => Agrees) Agrees (h.execPublic step) (w.execPublic script) := by
  obtain ⟨net, hnet, rfl⟩ := Option.map_eq_some_iff.1 hscript
  have hstart : Follows Answers (h.start step.kernel) (w.start net) :=
    { hf with trace := rfl, net := answers_script hnet }
  have hrun := asioRefinement.refines_execPublic step.fuel step.call _ _ hstart
  have hweak : ∀ h' w', Follows Closes h' w' → Agrees h' w' :=
    fun _ _ hf' => hf'.mono fun _ => trivial
  exact hrun.mono (fun _ => hweak) hweak

def Scripted : List HostPublicStep → List PublicStep → Prop :=
  List.Forall₂ fun step script => step.script = some script

/-- Over asio and any kernel that answers, a run shows call by call what the scripted one shows:
values, exceptions, errors, open sockets and what goes over the network. -/
theorem host_runs_as_scripted {steps : List HostPublicStep} {scripts : List PublicStep}
    (hscripts : Scripted steps scripts) (k : Kernel) (net : NetworkScript) :
    (Host.init k).observations steps = (World.init net).observations scripts := by
  have hstep : ∀ h w (step : HostPublicStep) (script : PublicStep), Agrees h w →
      step.script = some script →
      SameOutcome (fun _ => Agrees) Agrees (h.execPublic step) (w.execPublic script) :=
    fun h w step script hf hscript => execPublic_agrees hf hscript
  exact observedRun_eq hstep (fun _ _ hf => hf) (fun _ _ hf => hf.seen_eq) hscripts
    (agrees_init k net)

def ReactorReplies.ready : ReactorReplies := ⟨.ok (), .ok (), .ok (), .ok (), .ok ()⟩

def Kernel.slow (seg : Segment) : Kernel where
  addrinfo := ⟨0, 0, [⟨.other, loopback⟩, ⟨.inet, loopback⟩]⟩
  reactor := .ready
  socket := .ok 5
  epollCtl := .ok ()
  connect := ⟨.error ⟨115, by decide⟩, .ready, .ok 0⟩
  sends := [⟨.error ⟨11, by decide⟩, .ready⟩, ⟨.ok ⟨100, by decide⟩, .ready⟩]
  wait := .ready
  recvs := [⟨.error ⟨11, by decide⟩, .timedOut⟩, ⟨.ok (.data seg), .ready⟩,
    ⟨.ok .shutdown, .ready⟩]
  firstClose := .ok ()
  secondClose := .ok ()

theorem script_slow (seg : Segment) :
    (Kernel.slow seg).script =
      some { NetworkScript.serving [seg] .eof with writes := [.accepts 100 (by decide)] } := rfl

/-- The second call reads from the socket that the first one has closed. -/
theorem host_runs_as_scripted_slow :
    let seg : Segment := ⟨text "H\r\n\r\na", by decide⟩
    let call := PublicCall.call (.downloadString (text "http://a/") 80)
    let net :=
      { NetworkScript.serving [seg] .eof with writes := [.accepts 100 (by decide)] }
    (Host.init (.slow seg)).observations [⟨call, .slow seg, 9⟩, ⟨.readFromSocket, .slow seg, 9⟩] =
      (World.init net).observations [⟨call, net, 9⟩, ⟨.readFromSocket, net, 9⟩] := by
  intro seg call net
  have hscript : ∀ c, HostPublicStep.script ⟨c, .slow seg, 9⟩ = some ⟨c, net, 9⟩ := by
    intro c
    unfold HostPublicStep.script
    rw [script_slow]
    rfl
  exact host_runs_as_scripted (.cons (hscript _) (.cons (hscript _) .nil)) (.slow seg) net

end AsioClient
