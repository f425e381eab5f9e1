import AsioClient.HttpClient
import AsioClient.KernelScript
import AsioClient.LayerRefinement
import Mathlib.Data.List.Perm.Basic

/-!
asio's sockets over a kernel refine the scripted network: the script is the one read off the
kernel's answers, and the client's calls do the same over both.
-/

set_option autoImplicit false

namespace AsioClient
open Imperative

def SocketImpl.socketOf (impl : SocketImpl) : Socket := ⟨impl.isOpen⟩

/-- A host and a world that agree on all but the network, and on that as `P` says. The
socket descriptors are those of the open sockets. -/
structure Follows (P : Kernel → NetworkScript → Prop) (h : Host) (w : World) : Prop where
  client : SameClient h.client w.client
  sockets : h.impls.map SocketImpl.socketOf = w.sockets
  wellFormed : ∀ impl ∈ h.impls, impl.WellFormed
  held : h.descriptors.Perm (h.impls.filterMap SocketImpl.socket)
  trace : h.trace = w.trace
  net : P h.kernel w.net

/-- Once the stream has ended only the close is still to come. -/
structure Closes (k : Kernel) (net : NetworkScript) : Prop where
  closing : net.closing = k.closing

structure Streams (k : Kernel) (net : NetworkScript) : Prop extends Closes k net where
  waits : k.wait.answers = true
  waiting : net.waiting = k.wait.failure
  reading : arrivals k.recvs = some (net.reads, net.ending)

structure Answers (k : Kernel) (net : NetworkScript) : Prop extends Streams k net where
  resolving : net.resolving = k.resolving
  reactor : makeReactor k.reactor = .ok ()
  opening : net.opening = k.opening
  connects : k.connect.answers = true
  connecting : net.connecting = k.connect.failure
  writing : ∃ first rest, written k.sends = some first ∧ net.writes = first :: rest

theorem answers_script {k : Kernel} {net : NetworkScript} (h : k.script = some net) :
    Answers k net := by
  unfold Kernel.script at h
  split at h
  · rename_i done first reads ending hreactor hwritten harrivals
    split at h
    · rename_i hanswers
      obtain ⟨hconnects, hwaits⟩ := Bool.and_eq_true_iff.1 hanswers
      obtain rfl := Option.some.inj h
      exact ⟨⟨⟨rfl⟩, hwaits, rfl, harrivals⟩, rfl, hreactor, rfl, hconnects, rfl, first, [],
        hwritten, rfl⟩
    · cases h
  · cases h

theorem wellFormed_construct : SocketImpl.construct.WellFormed := fun hopen => by cases hopen

theorem wellFormed_set {impls : List SocketImpl} (h : ∀ impl ∈ impls, impl.WellFormed)
    {new : SocketImpl} (hnew : new.WellFormed) (i : Nat) :
    ∀ impl ∈ impls.set i new, impl.WellFormed := by
  intro impl hmem
  rcases List.mem_or_eq_of_mem_set hmem with hold | rfl
  · exact h impl hold
  · exact hnew

theorem wellFormed_append_construct {impls : List SocketImpl}
    (h : ∀ impl ∈ impls, impl.WellFormed) :
    ∀ impl ∈ impls ++ [SocketImpl.construct], impl.WellFormed := by
  intro impl hmem
  rcases List.mem_append.1 hmem with hold | hnew
  · exact h impl hold
  · obtain rfl := List.mem_singleton.1 hnew
    exact wellFormed_construct

theorem filterMap_append_construct (impls : List SocketImpl) :
    (impls ++ [SocketImpl.construct]).filterMap SocketImpl.socket =
      impls.filterMap SocketImpl.socket := by
  have hnone : [SocketImpl.construct].filterMap SocketImpl.socket = [] := rfl
  rw [List.filterMap_append, hnone, List.append_nil]

theorem filterMap_set_perm {impls : List SocketImpl} {i : Nat} {old : SocketImpl}
    (h : impls[i]? = some old) (hold : old.socket = none) (s : Nat) (state : StateType) :
    ((impls.set i ⟨some s, state⟩).filterMap SocketImpl.socket).Perm
      (s :: impls.filterMap SocketImpl.socket) := by
  induction impls generalizing i with
  | nil => cases h
  | cons impl rest ih =>
    cases i with
    | zero =>
      obtain rfl : impl = old := Option.some.inj h
      have hnew : (⟨some s, state⟩ : SocketImpl).socket = some s := rfl
      rw [List.set_cons_zero, List.filterMap_cons_some hnew, List.filterMap_cons_none hold]
    | succ i =>
      rw [List.set_cons_succ]
      have hrest := ih (i := i) h
      cases hs : impl.socket with
      | none =>
        rw [List.filterMap_cons_none hs, List.filterMap_cons_none hs]
        exact hrest
      | some t =>
        rw [List.filterMap_cons_some hs, List.filterMap_cons_some hs]
        exact (hrest.cons t).trans (.swap s t _)

theorem filterMap_set_erase {impls : List SocketImpl} {i s : Nat} {old : SocketImpl}
    (h : impls[i]? = some old) (hold : old.socket = some s) :
    ((impls.filterMap SocketImpl.socket).erase s).Perm
      ((impls.set i .construct).filterMap SocketImpl.socket) := by
  have hlt : i < impls.length := (List.getElem?_eq_some_iff.1 h).1
  have hget : (impls.set i .construct)[i]? = some .construct := by simp [hlt]
  have hback := filterMap_set_perm hget rfl s old.state
  have hsame : (impls.set i .construct).set i ⟨some s, old.state⟩ = impls := by
    have hself : impls[i] = old := (List.getElem?_eq_some_iff.1 h).2
    rw [List.set_set, ← hold]
    show impls.set i old = impls
    rw [← hself, List.set_getElem_self]
  rw [hsame] at hback
  simpa using hback.erase s

theorem map_set_same {β : Type} {f : SocketImpl → β} {impls : List SocketImpl} {i : Nat}
    {old new : SocketImpl} (h : impls[i]? = some old) (hf : f new = f old) :
    (impls.set i new).map f = impls.map f := by
  obtain ⟨hlt, hget⟩ := List.getElem?_eq_some_iff.1 h
  have hlt' : i < (impls.map f).length := by simpa using hlt
  have hget' : (impls.map f)[i] = f old := by simp [hget]
  rw [List.map_set, hf, ← hget', List.set_getElem_self]

theorem filterMap_set_same {impls : List SocketImpl} {i : Nat} {old new : SocketImpl}
    (h : impls[i]? = some old) (hs : new.socket = old.socket) :
    (impls.set i new).filterMap SocketImpl.socket = impls.filterMap SocketImpl.socket := by
  have hids : ∀ l : List SocketImpl, l.filterMap SocketImpl.socket =
      (l.map SocketImpl.socket).filterMap id := by
    intro l
    rw [List.filterMap_map, Function.id_comp]
  rw [hids, hids impls, map_set_same h hs]

namespace Follows

variable {P Q : Kernel → NetworkScript → Prop} {h : Host} {w : World}

theorem mono (hf : Follows P h w) (hPQ : P h.kernel w.net → Q h.kernel w.net) : Follows Q h w :=
  { hf with net := hPQ hf.net }

theorem setErrorCode (hf : Follows P h w) {a b : ErrorCode} (hab : SameReport a b) :
    Follows P (h.setErrorCode a) (w.setErrorCode b) :=
  { hf with client := { hf.client with error := hab } }

theorem log (hf : Follows P h w) (e : Event) : Follows P (h.log e) (w.log e) :=
  { hf with trace := congrArg (· ++ [e]) hf.trace }

theorem script (hf : Follows P h w) {k : Kernel} {net : NetworkScript} (hQ : Q k net) :
    Follows Q { h with kernel := k } { w with net := net } :=
  { hf with net := hQ }

theorem current (hf : Follows P h w) :
    (h.impl? = none ∧ w.socket? = none) ∨
      ∃ i impl, h.client.mSocket = some i ∧ h.impls[i]? = some impl ∧ h.impl? = some impl ∧
        w.socket? = some ⟨impl.isOpen⟩ ∧ impl.WellFormed := by
  unfold Host.impl? World.socket?
  rw [← hf.client.socket, ← hf.sockets]
  cases hs : h.client.mSocket with
  | none => exact .inl ⟨rfl, rfl⟩
  | some i =>
    cases hi : h.impls[i]? with
    | none => exact .inl ⟨by simp [hi], by simp [hi]⟩
    | some impl =>
      refine .inr ⟨i, impl, rfl, hi, by simp [hi], by simp [hi, SocketImpl.socketOf], ?_⟩
      exact hf.wellFormed impl (List.mem_of_getElem? hi)

theorem newSocket (hf : Follows P h w) : Follows P h.newSocket w.newSocket where
  client := { hf.client with
    socket := by
      have hlen := congrArg List.length hf.sockets
      rw [List.length_map] at hlen
      exact congrArg some hlen }
  sockets := by
    show (h.impls ++ [SocketImpl.construct]).map SocketImpl.socketOf = w.sockets ++ [⟨false⟩]
    rw [List.map_append, hf.sockets]
    rfl
  wellFormed := wellFormed_append_construct hf.wellFormed
  held := by
    show h.descriptors.Perm ((h.impls ++ [SocketImpl.construct]).filterMap SocketImpl.socket)
    rw [filterMap_append_construct]
    exact hf.held
  trace := hf.trace
  net := hf.net

theorem setOpen (hf : Follows P h w) {i : Nat} {impl : SocketImpl}
    (hi : h.client.mSocket = some i) (himpl : h.impls[i]? = some impl)
    (hclosed : impl.socket = none) (s : Nat) :
    Follows P { h.setImpl ⟨some s, .stream⟩ with descriptors := s :: h.descriptors }
      (w.setOpen true) := by
  have hw : w.client.mSocket = some i := hf.client.socket ▸ hi
  unfold Host.setImpl World.setOpen
  simp only [hi, hw]
  exact
    { client := hf.client
      sockets := by
        show (h.impls.set i ⟨some s, .stream⟩).map SocketImpl.socketOf = w.sockets.set i ⟨true⟩
        rw [List.map_set, hf.sockets]
        rfl
      wellFormed := wellFormed_set hf.wellFormed (fun _ => rfl) i
      held := (hf.held.cons s).trans (filterMap_set_perm himpl hclosed s .stream).symm
      trace := hf.trace
      net := hf.net }

theorem setClosed (hf : Follows P h w) {i s : Nat} {impl : SocketImpl}
    (hi : h.client.mSocket = some i) (himpl : h.impls[i]? = some impl)
    (hopen : impl.socket = some s) :
    Follows P { h.setImpl .construct with descriptors := h.descriptors.erase s }
      (w.setOpen false) := by
  have hw : w.client.mSocket = some i := hf.client.socket ▸ hi
  unfold Host.setImpl World.setOpen
  simp only [hi, hw]
  exact
    { client := hf.client
      sockets := by
        show (h.impls.set i .construct).map SocketImpl.socketOf = w.sockets.set i ⟨false⟩
        rw [List.map_set, hf.sockets]
        rfl
      wellFormed := wellFormed_set hf.wellFormed wellFormed_construct i
      held := (hf.held.erase s).trans (filterMap_set_erase himpl hopen)
      trace := hf.trace
      net := hf.net }

theorem construct (hf : Follows P h w) {i : Nat} {impl : SocketImpl}
    (hi : h.client.mSocket = some i) (himpl : h.impls[i]? = some impl)
    (hclosed : impl.socket = none) : Follows P (h.setImpl .construct) w := by
  unfold Host.setImpl
  simp only [hi]
  exact
    { client := hf.client
      sockets := by
        have hview : SocketImpl.construct.socketOf = impl.socketOf := by
          simp [SocketImpl.socketOf, SocketImpl.isOpen, SocketImpl.construct, hclosed]
        exact (map_set_same himpl hview).trans hf.sockets
      wellFormed := wellFormed_set hf.wellFormed wellFormed_construct i
      held := by
        show h.descriptors.Perm ((h.impls.set i .construct).filterMap SocketImpl.socket)
        rw [filterMap_set_same himpl hclosed.symm]
        exact hf.held
      trace := hf.trace
      net := hf.net }

end Follows

/-- The current socket and its implementation, whatever states they are found in. -/
structure Current (h : Host) (w : World) (i : Nat) (impl : SocketImpl) : Prop where
  pointer : h.client.mSocket = some i
  stored : h.impls[i]? = some impl
  wellFormed : impl.WellFormed
  socket : w.socket? = some ⟨impl.isOpen⟩

theorem Current.socket_closed {h : Host} {w : World} {i : Nat} {impl : SocketImpl}
    (hc : Current h w i impl) (hs : impl.socket = none) : w.socket? = some ⟨false⟩ := by
  have hopen : impl.isOpen = false := by simp [SocketImpl.isOpen, hs]
  rw [hc.socket, hopen]

theorem Current.socket_open {h : Host} {w : World} {i s : Nat} {impl : SocketImpl}
    (hc : Current h w i impl) (hs : impl.socket = some s) :
    w.socket? = some ⟨true⟩ ∧ impl.state = .stream := by
  have hopen : impl.isOpen = true := by simp [SocketImpl.isOpen, hs]
  exact ⟨by rw [hc.socket, hopen], hc.wellFormed hopen⟩

section Operations

variable {P Q : Kernel → NetworkScript → Prop} {α : Type}

theorem refines_on_current {E : Host → World → Prop} {k : SocketImpl → EStateM Halt Host α}
    {q : Exec α} {R : α → Host → World → Prop} (hE : ∀ h w, Follows P h w → E h w)
    (hnone : ∀ w, w.socket? = none → q.run w = .error .undefined w)
    (hsome : ∀ h w i impl, Follows P h w → Current h w i impl →
      SameOutcome R E ((k impl).run h) (q.run w)) :
    Refines (Follows P) (Asio.implementation >>= k) q R E := by
  intro h w hf
  unfold Asio.implementation
  simp only [EStateM.run_bind, run_reading]
  rcases hf.current with ⟨hcur, hsock⟩ | ⟨i, impl, hi, himpl, hcur, hsock, hwf⟩
  · rw [hcur, hnone w hsock]
    exact .stopped (hE h w hf)
  · rw [hcur]
    exact hsome h w i impl hf ⟨hi, himpl, hwf, hsock⟩

theorem refines_isOpen :
    Refines (Follows P) Asio.isOpen isOpen (fun _ => Follows P) (Follows P) := by
  refine refines_on_current (fun _ _ hf => hf) (fun _ h => isOpen_run_none h) ?_
  intro h w i impl hf hc
  rw [isOpen_run hc.socket]
  exact .returned hf

theorem refines_newSocket :
    Refines (Follows Answers) Asio.newSocket (modify World.newSocket)
      (fun _ => Follows Answers) (Follows Closes) := by
  intro h w hf
  unfold Asio.newSocket Asio.useReactor
  simp only [EStateM.run_bind, run_reading]
  cases hr : h.reactor with
  | true => exact .returned hf.newSocket
  | false =>
    have hmade : Follows Answers { h with reactor := true } w := { hf with }
    simp only [Bool.false_eq_true, ↓reduceIte, EStateM.run_bind, run_reading, hf.net.reactor]
    exact .returned hmade.newSocket

theorem refines_resolve (name : Bytes) (port : Int32) :
    Refines (Follows Answers) (Asio.resolve name port) (resolve name port)
      (fun _ => Follows Answers) (Follows Answers) := by
  intro h w hf
  have hlog := hf.log (.resolve name port)
  have hanswer := resolveOp_resolving h.kernel
  have hnet : (w.log (.resolve name port)).net.resolving = h.kernel.resolving := hf.net.resolving
  have hkernel : (h.log (.resolve name port)).kernel = h.kernel := rfl
  unfold Asio.resolve resolve
  simp only [EStateM.run_bind, run_modify, run_reading, hnet, hkernel]
  cases hr : h.kernel.resolving with
  | ok endpoints =>
    rw [hr] at hanswer
    obtain ⟨ec, hop, hok⟩ := hanswer
    simp only [hop, hok, Bool.false_eq_true, ↓reduceIte]
    exact .returned hlog
  | error e =>
    rw [hr] at hanswer
    simp only [hanswer, e.isSet, ↓reduceIte]
    exact .stopped hlog

theorem refines_waitRead :
    Refines (Follows Streams) Asio.waitRead waitRead (fun _ => Follows Streams)
      (Follows Streams) := by
  refine refines_on_current (fun _ _ hf => hf) ?_ ?_
  · intro w hnone
    unfold waitRead
    simp only [EStateM.run_bind, isOpen_run_none hnone]
  · intro h w i impl hf hc
    have hlog := hf.log .waitRead
    have hkernel : (h.log .waitRead).kernel = h.kernel := rfl
    simp only [EStateM.run_bind, run_modify, run_reading, hkernel]
    cases hs : impl.socket with
    | none =>
      have hsock := hc.socket_closed hs
      unfold waitRead
      simp only [EStateM.run_bind, isOpen_run hsock]
      exact .stopped hlog
    | some s =>
      obtain ⟨hsock, hstate⟩ := hc.socket_open hs
      have hpoll := pollRead_stream s h.kernel.wait
      rw [if_pos hf.net.waits] at hpoll
      obtain ⟨result, ec, hrun, hreport⟩ := hpoll
      rw [waitRead_run hsock, hf.net.waiting, hstate]
      unfold Reports at hreport
      cases hw : h.kernel.wait.failure with
      | some e =>
        rw [hw] at hreport
        simp only [hrun, hreport, e.isSet, ↓reduceIte]
        exact .stopped hlog
      | none =>
        rw [hw] at hreport
        simp only [hrun, hreport, Bool.false_eq_true, ↓reduceIte]
        exact .returned hlog

theorem refines_close :
    Refines (Follows Closes) Asio.close close (fun _ => Follows Closes) (Follows Closes) := by
  refine refines_on_current (fun _ _ hf => hf) ?_ ?_
  · intro w hnone
    unfold close
    simp only [EStateM.run_bind, isOpen_run_none hnone]
  · intro h w i impl hf hc
    cases hs : impl.socket with
    | none =>
      have hsock := hc.socket_closed hs
      unfold close
      simp only [EStateM.run_bind, isOpen_run hsock, Bool.false_eq_true, ↓reduceIte]
      exact .returned (hf.construct hc.pointer hc.stored hs)
    | some s =>
      obtain ⟨hsock, hstate⟩ := hc.socket_open hs
      have hreport := reports_closeOp s impl.state h.kernel
      have hclosed := hf.setClosed hc.pointer hc.stored hs
      rw [close_run hsock, hf.net.closing]
      simp only [EStateM.run_bind, run_reading, run_modify]
      unfold Reports at hreport
      cases hw : h.kernel.closing with
      | some e =>
        rw [hw] at hreport
        simp only [hreport, e.isSet, ↓reduceIte]
        exact .stopped hclosed
      | none =>
        rw [hw] at hreport
        simp only [hreport, Bool.false_eq_true, ↓reduceIte]
        exact .returned hclosed

theorem refines_writeSome (buffer : Bytes) :
    Refines (Follows Answers) (Asio.writeSome buffer) (writeSome buffer)
      (fun _ => Follows Streams) (Follows Closes) := by
  refine refines_on_current (fun _ _ hf => hf.mono fun hn => hn.toCloses) ?_ ?_
  · intro w hnone
    unfold writeSome
    simp only [EStateM.run_bind, isOpen_run_none hnone]
  · intro h w i impl hf hc
    have hstreams : Follows Streams h w := hf.mono fun hn => hn.toStreams
    simp only [EStateM.run_bind, run_reading]
    cases hs : impl.socket with
    | none =>
      have hsock := hc.socket_closed hs
      unfold writeSome
      simp only [EStateM.run_bind, isOpen_run hsock]
      exact .returned (hstreams.setErrorCode (.refl _))
    | some s =>
      obtain ⟨hsock, hstate⟩ := hc.socket_open hs
      rw [hstate]
      by_cases hb : buffer = []
      · subst hb
        unfold writeSome
        simp only [EStateM.run_bind, isOpen_run hsock]
        have hsame := SameReport.of_not_isSet (a := h.client.mErrorCode.succeed)
          (b := w.client.mErrorCode.succeed) rfl rfl
        exact .returned (hstreams.setErrorCode hsame)
      · have hlen : buffer.length ≠ 0 := by simpa using hb
        obtain ⟨first, rest, hfirst, hwrites⟩ := hf.net.writing
        have hsend := syncSend1_written (s := s) hlen h.kernel.sends h.client.mErrorCode
        have hnet : ∀ sends ws,
            Streams { h.kernel with sends := sends } { w.net with writes := ws } :=
          fun sends ws => ⟨⟨hf.net.closing⟩, hf.net.waits, hf.net.waiting, hf.net.reading⟩
        rw [hfirst] at hsend
        rw [writeSome_run hsock hb, hwrites]
        cases first with
        | fails e =>
          obtain ⟨sends, hrun⟩ := hsend
          have hdone := (hf.setErrorCode (.refl e.code)).script (hnet sends rest)
          simp only [hrun, EStateM.run_bind, run_modify, World.wrote, List.append_nil]
          exact .returned hdone
        | accepts m pos =>
          obtain ⟨ec, sends, hok, hrun⟩ := hsend
          have hsame := SameReport.of_not_isSet (b := w.client.mErrorCode.succeed) hok rfl
          have hdone := ((hf.setErrorCode hsame).script (hnet sends rest)).log
            (.sent (buffer.take m))
          have htaken : 0 < min m buffer.length := by omega
          have htake : buffer.take (min m buffer.length) = buffer.take m := by
            rw [List.take_eq_take_min (i := m)]
          simp only [hrun, EStateM.run_bind, run_modify, htaken, ↓reduceIte, htake]
          exact .returned hdone

theorem refines_readSome (size : Nat) :
    Refines (Follows Streams) (Asio.readSome size) (readSome size)
      (fun _ h w => Follows Closes h w ∧
        (h.client.mErrorCode.isSet = false → Follows Streams h w)) (Follows Closes) := by
  refine refines_on_current (fun _ _ hf => hf.mono fun hn => hn.toCloses) ?_ ?_
  · intro w hnone
    unfold readSome
    simp only [EStateM.run_bind, isOpen_run_none hnone]
  · intro h w i impl hf hc
    simp only [EStateM.run_bind, run_reading]
    cases hs : impl.socket with
    | none =>
      have hsock := hc.socket_closed hs
      have hdone := hf.setErrorCode (.refl badDescriptor)
      unfold readSome
      simp only [EStateM.run_bind, isOpen_run hsock]
      exact .returned ⟨hdone.mono fun hn => hn.toCloses, fun _ => hdone⟩
    | some s =>
      obtain ⟨hsock, hstate⟩ := hc.socket_open hs
      rw [hstate]
      by_cases hsize : size = 0
      · subst hsize
        have hsame := SameReport.of_not_isSet (a := h.client.mErrorCode.succeed)
          (b := w.client.mErrorCode.succeed) rfl rfl
        have hdone := hf.setErrorCode hsame
        unfold readSome
        simp only [EStateM.run_bind, isOpen_run hsock]
        exact .returned ⟨hdone.mono fun hn => hn.toCloses, fun _ => hdone⟩
      · obtain ⟨bytes, ec, recvs, hrun, hresult⟩ :=
          syncRecv1_arrivals (s := s) hsize hf.net.reading h.client.mErrorCode
        rw [hrun, readSome_run hsock hsize]
        cases hr : w.net.reads with
        | nil =>
          rw [hr] at hresult
          obtain ⟨rfl, rfl⟩ := hresult
          have hnet : Closes { h.kernel with recvs := recvs } w.net := ⟨hf.net.closing⟩
          have hdone := (hf.setErrorCode (.refl w.net.ending.code)).script hnet
          refine .returned ⟨hdone, fun hno => ?_⟩
          exact absurd (w.net.ending.isSet.symm.trans hno) (by decide)
        | cons seg later =>
          rw [hr] at hresult
          obtain ⟨rfl, hok, hrest⟩ := hresult
          have hnet : Streams { h.kernel with recvs := recvs }
              { w.net with reads := seg.rest size ++ later } :=
            ⟨⟨hf.net.closing⟩, hf.net.waits, hf.net.waiting, hrest⟩
          have hsame := SameReport.of_not_isSet (b := w.client.mErrorCode.succeed) hok rfl
          have hdone := (hf.setErrorCode hsame).script hnet
          exact .returned ⟨hdone.mono fun hn => hn.toCloses, fun _ => hdone⟩

theorem refines_syncConnect {h : Host} {w : World} {impl : SocketImpl} {s : Nat}
    (hf : Follows Answers h w) (hs : impl.socket = some s) (endpoint : Endpoint) :
    SameOutcome (fun _ => Follows Answers) (Follows Closes)
      ((Asio.syncConnect endpoint impl).run h) (.ok () (w.syncConnect endpoint)) := by
  have hconnect := syncConnect_some s h.kernel.connect h.client.mErrorCode
  rw [if_pos hf.net.connects] at hconnect
  obtain ⟨ec, hrun, hreport⟩ := hconnect
  have hlog := hf.log (.connect endpoint)
  have hkernel : (h.log (.connect endpoint)).kernel = h.kernel := rfl
  have hclient : (h.log (.connect endpoint)).client = h.client := rfl
  unfold Asio.syncConnect World.syncConnect
  simp only [EStateM.run_bind, run_modify, run_reading, hs, hkernel, hclient, hrun,
    hf.net.connecting]
  unfold Reports at hreport
  cases hc : h.kernel.connect.failure with
  | some e =>
    rw [hc] at hreport
    rw [hreport]
    exact .returned (hlog.setErrorCode (.refl _))
  | none =>
    rw [hc] at hreport
    exact .returned (hlog.setErrorCode (.of_not_isSet hreport rfl))

theorem follows_doOpen {h : Host} {w : World} {i : Nat} {impl : SocketImpl}
    (hf : Follows Answers h w) (hc : Current h w i impl) (hs : impl.socket = none) :
    Follows Answers (h.doOpen impl) w.openSocket ∧
      ((h.doOpen impl).client.mErrorCode.isSet = false →
        ∃ s, (h.doOpen impl).impl? = some ⟨some s, .stream⟩) := by
  have hclosed : impl.isOpen = false := by simp [SocketImpl.isOpen, hs]
  have hopening := hf.net.opening
  unfold Kernel.opening at hopening
  unfold Host.doOpen World.openSocket socketOp
  rw [hclosed, hopening]
  simp only [Bool.false_eq_true, ↓reduceIte]
  cases h.kernel.socket with
  | error e =>
    refine ⟨hf.setErrorCode (.refl e.code), fun hno => ?_⟩
    exact absurd (e.isSet_code.symm.trans hno) (by decide)
  | ok s =>
    by_cases herr : registerDescriptor h.kernel.epollCtl = 0
    · have hopened := (hf.setOpen hc.pointer hc.stored hs s).log .opened
      have hlt := (List.getElem?_eq_some_iff.1 hc.stored).1
      simp only [herr, ne_eq, not_true_eq_false, ↓reduceIte]
      refine ⟨hopened.setErrorCode (.refl .cleared), fun _ => ⟨s, ?_⟩⟩
      simp [Host.impl?, Host.setErrorCode, Host.log, Host.setImpl, hc.pointer, hlt]
    · have hset : (registerDescriptor h.kernel.epollCtl != 0) = true := by simpa using herr
      simp only [herr, ne_eq, not_false_eq_true, ↓reduceIte, systemFailure, hset, ↓reduceDIte]
      refine ⟨hf.setErrorCode (.refl _), fun hno => ?_⟩
      exact absurd (hset.symm.trans hno) (by decide)

theorem refines_connect (endpoint : Endpoint) :
    Refines (Follows Answers) (Asio.connect endpoint) (connect endpoint)
      (fun _ => Follows Answers) (Follows Closes) := by
  have hweaken : ∀ h w, Follows Answers h w → Follows Closes h w :=
    fun _ _ hf => hf.mono fun hn => hn.toCloses
  refine refines_on_current hweaken ?_ ?_
  · intro w hnone
    unfold connect
    simp only [EStateM.run_bind, isOpen_run_none hnone]
  · intro h w i impl hf hc
    cases hs : impl.socket with
    | none =>
      have hsock := hc.socket_closed hs
      have hclosed : impl.isOpen = false := by simp [SocketImpl.isOpen, hs]
      obtain ⟨hopened, hcur⟩ := follows_doOpen hf hc hs
      rw [connect_run_closed hsock, ← hopened.client.error.isSet_eq]
      simp only [hclosed, Bool.false_eq_true, ↓reduceIte, EStateM.run_bind, run_modify,
        run_reading]
      cases hset : (h.doOpen impl).client.mErrorCode.isSet with
      | true => exact .returned hopened
      | false =>
        obtain ⟨s, himpl⟩ := hcur hset
        unfold Asio.implementation
        simp only [Bool.false_eq_true, ↓reduceIte, EStateM.run_bind, run_reading, himpl]
        exact refines_syncConnect hopened rfl endpoint
    | some s =>
      obtain ⟨hsock, hstate⟩ := hc.socket_open hs
      have hopen : impl.isOpen = true := by simp [SocketImpl.isOpen, hs]
      unfold connect
      simp only [hopen, ↓reduceIte, EStateM.run_bind, isOpen_run hsock]
      exact refines_syncConnect hf hs endpoint

end Operations

theorem Follows.update {P : Kernel → NetworkScript → Prop} {h : Host} {w : World}
    {f : HttpClient → HttpClient} (hf : Follows P h w) (hharm : Harmless f) :
    Follows P { h with client := f h.client } { w with client := f w.client } :=
  { hf with client := hharm _ _ hf.client }

def asioRefinement : LayerRefinement asioLayer scriptedLayer where
  before := Follows Answers
  during := Follows Streams
  after := Follows Closes
  written hf := hf.mono fun hn => hn.toStreams
  ended hf := hf.mono fun hn => hn.toCloses
  sameClient hf := hf.client
  update_before hharm hf := hf.update hharm
  update_after hharm hf := hf.update hharm
  newSocket := refines_newSocket
  resolve := refines_resolve
  isOpen := refines_isOpen.mono (fun _ _ hf => hf) (fun _ _ _ hf => hf)
    fun _ _ hf => hf.mono fun hn => hn.toCloses
  connect := refines_connect
  writeSome := refines_writeSome
  waitRead := refines_waitRead.mono (fun _ _ hf => hf) (fun _ _ _ hf => hf)
    fun _ _ hf => hf.mono fun hn => hn.toCloses
  readSome := refines_readSome
  close := refines_close

end AsioClient
