import AsioClient.PublicCalls
import AsioClient.SessionRefinement

/-!
The socket descriptors of the process over any order of the public functions and under any kernel,
also one that keeps a call waiting. The reactor holds descriptors of its own, which do not count.
-/

set_option autoImplicit false

namespace AsioClient
open Imperative

namespace Host

/-- The socket descriptors held are those of the open sockets. The sockets in `kept` are as they
were, and the client does not point at them. -/
structure Accounted (kept : Nat → SocketImpl → Prop) (h : Host) : Prop where
  wellFormed : ∀ impl ∈ h.impls, impl.WellFormed
  held : h.descriptors.Perm (h.impls.filterMap SocketImpl.socket)
  left : ∀ i impl, kept i impl → h.impls[i]? = some impl ∧ h.client.mSocket ≠ some i

def Forgotten (h : Host) (i : Nat) (impl : SocketImpl) : Prop :=
  h.impls[i]? = some impl ∧ h.client.mSocket ≠ some i

namespace Accounted

variable {kept : Nat → SocketImpl → Prop} {h h' : Host} {impl : SocketImpl}

theorem of_ledger (ha : h.Accounted kept) (heq : h'.ledger = h.ledger) : h'.Accounted kept := by
  obtain ⟨hsocket, hrest⟩ := Prod.mk.inj heq
  obtain ⟨himpls, hdescriptors⟩ := Prod.mk.inj hrest
  constructor
  · rw [himpls]
    exact ha.wellFormed
  · rw [hdescriptors, himpls]
    exact ha.held
  · rw [himpls, hsocket]
    exact ha.left

theorem newSocket (ha : h.Accounted kept) : h.newSocket.Accounted kept where
  wellFormed := wellFormed_append_construct ha.wellFormed
  held := by
    show h.descriptors.Perm ((h.impls ++ [SocketImpl.construct]).filterMap SocketImpl.socket)
    rw [filterMap_append_construct]
    exact ha.held
  left := by
    intro i impl hkept
    have hi := (ha.left i impl hkept).1
    have hlt := (List.getElem?_eq_some_iff.1 hi).1
    refine ⟨(List.getElem?_append_left hlt).trans hi, fun hpointer => ?_⟩
    have heq : h.impls.length = i := Option.some.inj hpointer
    omega

theorem setImpl (ha : h.Accounted kept) {i : Nat} {new : SocketImpl} {descriptors : List Nat}
    (hi : h.client.mSocket = some i) (hnew : new.WellFormed)
    (hheld : descriptors.Perm ((h.impls.set i new).filterMap SocketImpl.socket)) :
    { h.setImpl new with descriptors := descriptors }.Accounted kept := by
  unfold Host.setImpl
  simp only [hi]
  refine ⟨wellFormed_set ha.wellFormed hnew i, hheld, fun j impl hkept => ?_⟩
  obtain ⟨hj, hpointer⟩ := ha.left j impl hkept
  have hne : i ≠ j := by
    rintro rfl
    exact hpointer hi
  refine ⟨?_, hpointer⟩
  show (h.impls.set i new)[j]? = some impl
  rwa [List.getElem?_set_ne hne]

theorem current (himpl : h.impl? = some impl) :
    ∃ i, h.client.mSocket = some i ∧ h.impls[i]? = some impl :=
  Option.bind_eq_some_iff.1 himpl

theorem opened (ha : h.Accounted kept) (himpl : h.impl? = some impl) (hs : impl.socket = none)
    (s : Nat) :
    { h.setImpl ⟨some s, .stream⟩ with descriptors := s :: h.descriptors }.Accounted kept := by
  obtain ⟨i, hi, hstored⟩ := current himpl
  have hheld := (ha.held.cons s).trans (filterMap_set_perm hstored hs s .stream).symm
  exact ha.setImpl hi (fun _ => rfl) hheld

theorem closed (ha : h.Accounted kept) (himpl : h.impl? = some impl) {s : Nat}
    (hs : impl.socket = some s) :
    { h.setImpl .construct with descriptors := h.descriptors.erase s }.Accounted kept := by
  obtain ⟨i, hi, hstored⟩ := current himpl
  have hheld := (ha.held.erase s).trans (filterMap_set_erase hstored hs)
  exact ha.setImpl hi wellFormed_construct hheld

theorem construct (ha : h.Accounted kept) (himpl : h.impl? = some impl)
    (hs : impl.socket = none) : (h.setImpl .construct).Accounted kept := by
  obtain ⟨i, hi, hstored⟩ := current himpl
  have hheld : h.descriptors.Perm ((h.impls.set i .construct).filterMap SocketImpl.socket) := by
    rw [filterMap_set_same hstored hs.symm]
    exact ha.held
  refine (ha.setImpl hi wellFormed_construct hheld).of_ledger ?_
  unfold Host.setImpl
  rw [hi]

end Accounted

end Host

theorem accounted_invariant (kept : Nat → SocketImpl → Prop) :
    HostInvariant (Host.Accounted kept) where
  ledger := Host.Accounted.of_ledger
  newSocket := Host.Accounted.newSocket
  setOpen s ha himpl hs := ha.opened himpl hs s
  setClosed ha himpl hs := ha.closed himpl hs
  construct := Host.Accounted.construct

theorem Host.accounted_init (k : Kernel) : (Host.init k).Accounted fun _ _ => False where
  wellFormed impl hmem := by cases hmem
  held := .nil
  left _ _ hkept := hkept.elim

/-- Whatever public functions are called in whatever order and under whatever kernel, wherever
the next call ends or hangs: the socket descriptors held are those of the open sockets, and a socket
that the client lost sight of is untouched and its descriptor still held. -/
theorem descriptors_accounted {k : Kernel} {before later : List HostPublicStep} {h h' : Host}
    (hbefore : (Host.init k).afterAllPublic before = some h)
    (hlater : h.afterAllPublic later = some h') (next : HostPublicStep) :
    let reached := endState (h'.execPublic next)
    reached.Accounted h.Forgotten ∧
      ∀ i impl s, h.Forgotten i impl → impl.socket = some s → s ∈ reached.descriptors := by
  intro reached
  have hstart := (accounted_invariant _).afterAllPublic (Host.accounted_init k) hbefore
  -- from here on the invariant also keeps the sockets out of sight at this point
  have hforgotten : h.Accounted h.Forgotten := { hstart with left := fun _ _ hi => hi }
  have hend := (accounted_invariant _).afterAllPublic hforgotten hlater
  have hreached : reached.Accounted h.Forgotten :=
    ((accounted_invariant _).execPublic hend next).endState
  refine ⟨hreached, fun i impl s hi hs => ?_⟩
  have hstored := (hreached.left i impl hi).1
  refine hreached.held.mem_iff.2 (List.mem_filterMap.2 ⟨impl, ?_, hs⟩)
  exact List.mem_of_getElem? hstored

theorem descriptors_accounted_waiting :
    let seg : Segment := ⟨text "H\r\n\r\na", by decide⟩
    let refusing := { Kernel.slow seg with connect := ⟨.error ⟨111, by decide⟩, .ready, .ok 0⟩ }
    let call := PublicCall.call (.downloadString (text "http://a/") 80)
    let silent := { Kernel.slow seg with socket := .ok 7, recvs := [] }
    ∃ h h', (Host.init refusing).afterAllPublic
        [⟨call, refusing, 9⟩, ⟨call, { Kernel.slow seg with socket := .ok 6 }, 9⟩] = some h ∧
      h.afterAllPublic [⟨.readFromSocket, silent, 9⟩] = some h' ∧
      5 ∈ (endState (h'.execPublic ⟨call, silent, 9⟩)).descriptors := by
  intro seg refusing call silent
  have hruns : (((Host.init refusing).afterAllPublic
      [⟨call, refusing, 9⟩, ⟨call, { Kernel.slow seg with socket := .ok 6 }, 9⟩]).bind
      fun h => (h.afterAllPublic [⟨.readFromSocket, silent, 9⟩]).map
        fun _ => (h.impls[0]?, h.client.mSocket)) =
      some (some ⟨some 5, .stream⟩, some 1) := by
    decide +kernel
  obtain ⟨h, hbefore, hruns⟩ := Option.bind_eq_some_iff.1 hruns
  obtain ⟨h', hlater, hh⟩ := Option.map_eq_some_iff.1 hruns
  obtain ⟨himpl, hpointer⟩ := Prod.mk.inj hh
  have hforgotten : h.Forgotten 0 ⟨some 5, .stream⟩ := by
    refine ⟨himpl, ?_⟩
    rw [hpointer]
    decide
  have hheld := (descriptors_accounted hbefore hlater ⟨call, silent, 9⟩).2
  exact ⟨h, h', hbefore, hlater, hheld 0 _ 5 hforgotten rfl⟩

/-- After a run that came back the process holds as many socket descriptors as the session of that
run, and they are those of the sockets still open. -/
theorem descriptors_leaked {k : Kernel} {steps : List HostPublicStep} {h : Host}
    (hrun : (Host.init k).afterAllPublic steps = some h) :
    ∃ s, Session.init.afterAllPublic steps = some s ∧ h.descriptors.length = s.held ∧
      h.descriptors.Perm (h.impls.filterMap SocketImpl.socket) := by
  obtain ⟨s, hs, hc⟩ := carries_afterAllPublic (carries_init k) hrun
  have haccounted := (accounted_invariant _).afterAllPublic (Host.accounted_init k) hrun
  exact ⟨s, hs, hc.held, haccounted.held⟩

/-- A connect that is refused by a kernel that would answer nothing else. The second call leaves
its socket open too, and the read closes that one. -/
theorem descriptors_leaked_refused :
    let seg : Segment := ⟨text "H\r\n\r\na", by decide⟩
    let k := { Kernel.slow seg with
      connect := ⟨.error ⟨111, by decide⟩, .ready, .ok 0⟩
      sends := []
      recvs := [] }
    let call := PublicCall.call (.downloadString (text "http://a/") 80)
    ∃ h, (Host.init k).afterAllPublic
        [⟨call, k, 0⟩, ⟨call, k, 0⟩, ⟨.readFromSocket, .slow seg, 9⟩] = some h ∧
      h.descriptors.length = 1 := by
  intro seg k call
  have hback : ((Host.init k).afterAllPublic
      [⟨call, k, 0⟩, ⟨call, k, 0⟩, ⟨.readFromSocket, .slow seg, 9⟩]).isSome := by decide +kernel
  have hheld : (Session.init.afterAllPublic
      [⟨call, k, 0⟩, ⟨call, k, 0⟩, ⟨.readFromSocket, .slow seg, 9⟩]).map Session.held = some 1 := by
    decide +kernel
  obtain ⟨h, hrun⟩ := Option.isSome_iff_exists.1 hback
  obtain ⟨s, hs, hlength, -⟩ := descriptors_leaked hrun
  rw [hs] at hheld
  exact ⟨h, hrun, hlength.trans (Option.some.inj hheld)⟩

end AsioClient
