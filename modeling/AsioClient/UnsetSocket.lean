import AsioClient.CallEnds
import AsioClient.ImperativeTriples

/-!
When the socket pointer is used before it was set, over any order of the public functions and
under any kernel. Only a download that makes a socket for an endpoint sets it.
-/

set_option autoImplicit false

namespace AsioClient
open Imperative

/-- The call goes through `getSocket()` without having set it. -/
def PublicCall.reads : PublicCall → Bool
  | .readBytesFromSocket => true
  | .readFromSocket => true
  | _ => false

/-- The download sets the pointer, also where it has to make the reactor first. -/
def Kernel.dialledFor (k : Kernel) (url : Bytes) : Bool :=
  (prepare url .GET).isOk && !k.endpoints.isEmpty && (k.making false).isNone

def HostPublicStep.dials (step : HostPublicStep) : Bool :=
  match step.call with
  | .call (.downloadString url _) => step.kernel.dialledFor url
  | .call (.downloadByteData url _) => step.kernel.dialledFor url
  | _ => false

theorem not_stopsRead_undefined {mBufferSize : Int32} {k : Kernel} :
    ¬ k.StopsRead mBufferSize .undefined := by
  rintro (h | _)
  cases h

theorem not_stopsDownload_undefined {made : Bool} {mBufferSize : Int32} {url : Bytes}
    {k : Kernel} : ¬ k.StopsDownload made mBufferSize url .undefined := by
  unfold Kernel.StopsDownload
  cases prepare url .GET with
  | error e => simp
  | ok request =>
    intro h
    cases h with
    | reading _ hread => exact not_stopsRead_undefined hread

theorem stops_undefined_iff (standing : Standing) (k : Kernel) (call : PublicCall) :
    call.Stops standing k .undefined ↔ call.reads = true ∧ standing.opened = none := by
  have hread : standing.StopsRead k .undefined ↔ standing.opened = none := by
    unfold Standing.StopsRead
    cases standing.opened with
    | none => simp
    | some opened =>
      cases opened with
      | false => simp
      | true => simpa using not_stopsRead_undefined
  unfold PublicCall.Stops PublicCall.reads
  cases call with
  | call c =>
    cases c with
    | downloadString url port => simpa using not_stopsDownload_undefined
    | downloadByteData url port => simpa using not_stopsDownload_undefined
    | setBufferSize size => simp
  | readBytesFromSocket => simpa using hread
  | readFromSocket => simpa using hread
  | getEndpointsFromString stringUrl port => simp

namespace Session

def HasSocket (s : Session) : Prop := s.socket ≠ .unset

def Fresh (s : Session) : Prop := s.socket = .unset ∧ s.reactor = false

theorem HasSocket.ask {s : Session} (hs : s.HasSocket) (request : Prepared) (name : Bytes)
    (port : Int32) : (s.ask request name port).HasSocket := by
  unfold HasSocket at hs ⊢
  show s.socket.ask request ≠ .unset
  cases hsocket : s.socket with
  | unset => exact absurd hsocket hs
  | closed => simp [SessionSocket.ask]
  | opened old => simp [SessionSocket.ask]

/-- However a run ends, it does not lose a socket. -/
abbrev KeepsSocket {α : Type} (p : EStateM Halt Session α) : Prop :=
  Preserves HasSocket p

theorem keepsSocket_settled {α : Type} (answer : Option (Except Exn α)) :
    KeepsSocket (settled answer) := by
  match answer with
  | some (.ok a) => exact .pure a
  | some (.error e) => exact .throw _
  | none => exact .throw _

theorem keepsSocket_readBytes (k : Kernel) : KeepsSocket (readBytes k) := by
  have hexchange : ∀ request, KeepsSocket (exchange k request) := by
    intro request
    unfold exchange
    cases written k.sends with
    | none => exact .throw _
    | some first =>
      refine .bind (.modify fun s hs => hs) fun _ => .bind (.reading _) fun mBufferSize => ?_
      exact keepsSocket_settled _
  have hclose : KeepsSocket (close k) := by
    unfold close
    refine .bind (.modify fun s hs => by simp [HasSocket, hangUp]) fun _ => ?_
    cases k.closing with
    | none => exact .pure ()
    | some e => exact .throw _
  unfold readBytes
  refine .bind (.reading _) fun socket => ?_
  cases socket with
  | unset => exact .throw _
  | closed => exact .pure []
  | opened request => exact .bind (hexchange request) fun _ => .bind hclose fun _ => .pure _

theorem keepsSocket_connect (k : Kernel) (request : Prepared) (endpoint : Endpoint) :
    KeepsSocket (connect k request endpoint) := by
  unfold connect
  cases k.opening with
  | some e => exact .bind (.modify fun s hs => hs) fun _ => .pure false
  | none =>
    refine .bind (.modify fun s hs => by simp [HasSocket, dial, log]) fun _ => .ite ?_ ?_
    · exact .bind (.modify fun s hs => hs) fun _ => .pure _
    · exact .throw _

theorem triple_newSocket {k : Kernel} {made : Bool} (hmaking : k.making made = none) :
    Triple (fun s => s.reactor = made) (newSocket k) (fun _ => HasSocket)
      fun _ => HasSocket := by
  intro s hs
  unfold newSocket
  rw [run_reading_bind, hs, hmaking]
  show HasSocket s.renew
  simp [HasSocket, renew]

theorem keepsSocket_newSocket (k : Kernel) : KeepsSocket (newSocket k) := by
  unfold newSocket
  refine .bind (.reading _) fun failure => ?_
  cases failure with
  | some e => exact .throw _
  | none => exact .modify fun s hs => by simp [HasSocket, renew]

theorem keepsSocket_connectToFirst (k : Kernel) (request : Prepared) (endpoints : List Endpoint) :
    KeepsSocket (connectToFirst k request endpoints) := by
  unfold connectToFirst
  cases endpoints with
  | nil => exact .pure false
  | cons endpoint rest =>
    exact .bind (keepsSocket_newSocket k) fun _ => keepsSocket_connect k request endpoint

theorem keepsSocket_execPublic (k : Kernel) (call : PublicCall) :
    KeepsSocket (execPublic k call) := by
  have hread := keepsSocket_readBytes k
  have hdownload : ∀ url port use, KeepsSocket (download k url port use) := by
    intro url port use
    unfold download
    refine .bind ?_ fun r => .bind (.modify fun s hs => hs.ask _ _ _) fun _ => ?_
    · cases prepareRequest url with
      | ok r => exact .pure r
      | error e => exact .throw _
    · refine .bind (keepsSocket_connectToFirst k _ _) fun connected => .ite ?_ (.pure [])
      exact .bind hread fun bytes => .pure _
  cases call with
  | call c =>
    refine .bind ?_ fun v => .pure _
    cases c with
    | downloadString url port => exact hdownload url port fun result => getStringResult result.Body
    | downloadByteData url port => exact hdownload url port fun result => result.Body
    | setBufferSize size => exact .bind (.modify fun s hs => hs) fun _ => .pure []
  | readBytesFromSocket => exact .bind hread fun v => .pure _
  | readFromSocket => exact .bind hread fun v => .pure _
  | getEndpointsFromString stringUrl port => exact .bind (.modify fun s hs => hs) fun _ => .pure _

theorem result_download_fresh {s : Session} (hs : s.Fresh) (k : Kernel) (url : Bytes)
    (port : Int32) (use : HttpContentData → Bytes) :
    let after := if k.dialledFor url then HasSocket else Fresh
    Result (fun _ => after) (fun _ => after) ((download k url port use).run s) := by
  intro after
  unfold after Kernel.dialledFor
  rw [prepareRequest_eq]
  unfold download
  cases prepareRequest url with
  | error e => exact hs
  | ok r =>
    obtain ⟨request, name⟩ := r
    have hasked : (s.ask request name port).Fresh := by
      refine ⟨?_, hs.2⟩
      show s.socket.ask request = .unset
      rw [hs.1]
      rfl
    rw [EStateM.run_bind, run_guarded_ok]
    dsimp only
    rw [EStateM.run_bind, run_modify]
    dsimp only
    unfold connectToFirst
    cases k.endpoints with
    | nil => exact hasked
    | cons endpoint rest =>
      cases hmaking : k.making false with
      | some e =>
        rw [EStateM.run_bind, EStateM.run_bind]
        unfold newSocket
        rw [run_reading_bind, hasked.2, hmaking]
        exact hasked
      | none =>
        have hdial : Triple (fun t => t.reactor = false) (newSocket k >>= fun _ =>
            connect k request endpoint) (fun _ => HasSocket) fun _ => HasSocket :=
          .bind (triple_newSocket hmaking) fun _ => keepsSocket_connect k request endpoint
        refine hdial.bind (fun connected => ?_) _ hasked.2
        exact Preserves.ite (.bind (keepsSocket_readBytes k) fun _ => .pure _) (.pure [])

theorem perform_fresh {s : Session} (hs : s.Fresh) {step : HostPublicStep}
    (hreads : step.call.reads = false) :
    let after := if step.dials then HasSocket else Fresh
    Result (fun _ => after) (fun _ => after) (s.perform step) := by
  obtain ⟨call, k, fuel⟩ := step
  cases call with
  | call c =>
    refine Result.bind ?_ fun v => .pure fun _ hafter => hafter
    cases c with
    | downloadString url port =>
      exact result_download_fresh (s := s.start) hs k url port
        fun result => getStringResult result.Body
    | downloadByteData url port =>
      exact result_download_fresh (s := s.start) hs k url port fun result => result.Body
    | setBufferSize size => exact hs
  | readBytesFromSocket => cases hreads
  | readFromSocket => cases hreads
  | getEndpointsFromString stringUrl port => exact hs

theorem hasSocket_afterPublic {s s' : Session} (hs : s.HasSocket ∨ s.Fresh)
    {step : HostPublicStep} (hrun : s.afterPublic step = some s') :
    (s'.HasSocket ∨ s'.Fresh) ∧ (s'.HasSocket ↔ s.HasSocket ∨ step.dials = true) := by
  rcases hs with hs | hs
  · have hkeeps : Result (fun _ => HasSocket) (fun _ => HasSocket) (s.perform step) :=
      keepsSocket_execPublic step.kernel step.call s.start hs
    have hs' := hkeeps.cameBack hrun
    exact ⟨.inl hs', iff_of_true hs' (.inl hs)⟩
  · have hno : ¬ s.HasSocket := fun h => h hs.1
    have hreads : step.call.reads = false := by
      -- a call that reads without a socket would not have come back
      by_contra hreads
      have hstops : step.call.Stops s.standing step.kernel .undefined :=
        (stops_undefined_iff _ _ _).2 ⟨by simpa using hreads, by simp [standing, hs.1,
          SessionSocket.opened?]⟩
      have hunset := (perform_stops_iff step.call step.kernel step.fuel).2 hstops
      have hback : (s.afterPublic step).isSome := Option.isSome_iff_exists.2 ⟨s', hrun⟩
      cases isSome_cameBack_iff.1 hback _ hunset
    have hafter := (perform_fresh hs hreads).cameBack hrun
    cases hd : step.dials with
    | true =>
      rw [hd, if_pos rfl] at hafter
      exact ⟨.inl hafter, iff_of_true hafter (.inr rfl)⟩
    | false =>
      rw [hd, if_neg Bool.false_ne_true] at hafter
      exact ⟨.inr hafter, iff_of_false (fun h => h hafter.1) (by simp [hno])⟩

theorem hasSocket_afterAllPublic {s s' : Session} (hs : s.HasSocket ∨ s.Fresh)
    {steps : List HostPublicStep} (hrun : s.afterAllPublic steps = some s') :
    s'.HasSocket ↔ s.HasSocket ∨ ∃ step ∈ steps, step.dials = true := by
  induction steps generalizing s with
  | nil =>
    obtain rfl := Option.some.inj hrun
    simp
  | cons step rest ih =>
    unfold afterAllPublic at hrun
    rw [List.foldlM_cons] at hrun
    obtain ⟨t, ht, hrest⟩ := Option.bind_eq_some_iff.1 hrun
    obtain ⟨hnext, hiff⟩ := hasSocket_afterPublic hs ht
    rw [ih hnext hrest, hiff, or_assoc, List.exists_mem_cons_iff]

end Session

theorem execPublic_unset {h : Host} {step : HostPublicStep} (hreads : step.call.reads = true)
    (hnone : h.impl? = none) : h.execPublic step = .error .undefined (h.start step.kernel) := by
  have hunset := asio_isOpen_run_none (h := h.start step.kernel) hnone
  unfold Host.execPublic
  cases hc : step.call with
  | call c =>
    rw [hc] at hreads
    cases hreads
  | readBytesFromSocket =>
    unfold SocketLayer.execPublic SocketLayer.readBytesFromSocket SocketLayer.exchangeIfOpen
    simp only [EStateM.run_bind, hunset]
  | readFromSocket =>
    unfold SocketLayer.execPublic SocketLayer.readFromSocket SocketLayer.readBytesFromSocket
      SocketLayer.exchangeIfOpen
    simp only [EStateM.run_bind, hunset]
  | getEndpointsFromString stringUrl port =>
    rw [hc] at hreads
    cases hreads

/-- The unset pointer is used by the calls that read, as long as no call has dialled. -/
theorem unset_socket_used_iff {k : Kernel} {steps : List HostPublicStep} {h : Host}
    (hrun : (Host.init k).afterAllPublic steps = some h) (step : HostPublicStep) :
    (∃ h', h.execPublic step = .error .undefined h') ↔
      step.call.reads = true ∧ ∀ s ∈ steps, s.dials = false := by
  obtain ⟨s, hs, hc⟩ := carries_afterAllPublic (carries_init k) hrun
  have hfresh : Session.init.Fresh := ⟨rfl, rfl⟩
  have hsocket := Session.hasSocket_afterAllPublic (.inr hfresh) hs
  have hdialled : s.socket = .unset ↔ ∀ step ∈ steps, step.dials = false := by
    rw [← not_iff_not]
    simpa [Session.HasSocket, hfresh.1] using hsocket
  have hopened : h.standing.opened = none ↔ s.socket = .unset := by
    rw [hc.standing_eq]
    unfold Session.standing SessionSocket.opened?
    cases s.socket with
    | unset => simp
    | closed => simp
    | opened request => simp
  rw [← hdialled, ← hopened]
  constructor
  · rintro ⟨h', hundefined⟩
    have houtcome : outcome (h.execPublic step) = .error .undefined := congrArg outcome hundefined
    refine (stops_undefined_iff _ _ _).1 ((execPublic_settled hc ?_).1 houtcome)
    rw [houtcome]
    simp
  · rintro ⟨hreads, hnone⟩
    exact ⟨_, execPublic_unset hreads (Option.map_eq_none_iff.1 hnone)⟩

/-- There is no descriptor for the reactor of the first socket. The call throws, and there is
nothing to read from. -/
theorem unset_socket_used_full_table :
    let seg : Segment := ⟨text "H\r\n\r\na", by decide⟩
    let full := { ReactorReplies.ready with epollCreate1 := .error ⟨24, rfl⟩ }
    let k := { Kernel.slow seg with reactor := full }
    let call := PublicCall.call (.downloadString (text "http://a/") 80)
    ∃ h, (Host.init k).afterAllPublic [⟨call, k, 9⟩] = some h ∧
      ∃ h', h.execPublic ⟨.readFromSocket, .slow seg, 9⟩ = .error .undefined h' := by
  intro seg full k call
  have hback : ((Host.init k).afterAllPublic [⟨call, k, 9⟩]).isSome := by decide +kernel
  have hsteps : ∀ s ∈ [(⟨call, k, 9⟩ : HostPublicStep)], s.dials = false := by
    intro s hs
    obtain rfl := List.mem_singleton.1 hs
    decide +kernel
  obtain ⟨h, hrun⟩ := Option.isSome_iff_exists.1 hback
  exact ⟨h, hrun, (unset_socket_used_iff hrun _).2 ⟨rfl, hsteps⟩⟩

end AsioClient
