import AsioClient.ResponseStream

/-!
The buffer size that `SetBufferSize` takes unchecked: for which sizes the receive loop comes to
its end.
-/

set_option autoImplicit false

namespace AsioClient
open Imperative

def World.withBufferSize (n : Int32) (w : World) : World :=
  { w with client := { w.client with mBufferSize := n } }

theorem setBufferSize_run (n : Int32) (w : World) :
    (setBufferSize n).run w = .ok ⟨⟩ (w.withBufferSize n) := rfl

theorem Ready.withBufferSize {w : World} (hr : Ready w) (n : Int32) :
    Ready (w.withBufferSize n) :=
  ⟨hr.opened, hr.written, hr.waited⟩

/-- With the size set, some number of rounds suffices to return what arrives. -/
def ReceivesAll (n : Int32) (w : World) : Prop :=
  ∃ rounds, ∀ fuel, rounds < fuel → ∃ after,
    (setBufferSize n >>= fun _ => exchange fuel).run w = .ok w.net.stream after

theorem scripted_endless :
    scriptedLayer.Endless 0 fun w => w.socket? = some ⟨true⟩ ∧ w.client.mBufferSize = 0 ∧
      w.client.mErrorCode.isSet = false where
  reads := by
    rintro w ⟨-, hzero, hok⟩
    exact ⟨hok, hzero ▸ rfl⟩
  more := by
    rintro w ⟨hopen, hzero, -⟩
    refine ⟨w.succeed, ⟨hopen, hzero, ErrorCode.isSet_succeed _⟩, .inr ⟨[], ?_⟩⟩
    show (readSome 0).run w = _
    simp only [readSome, EStateM.run_bind, isOpen_run hopen]
    rfl

theorem readLoop_empty_buffer (fuel : Nat) (collected : Bytes) {w : World}
    (hopen : w.socket? = some ⟨true⟩) (hok : w.client.mErrorCode.isSet = false)
    (hzero : w.client.mBufferSize = 0) :
    ∃ after, (readLoop fuel collected).run w = .error .running after := by
  obtain ⟨after, hrun, -⟩ := scripted_endless.readLoop_run ⟨hopen, hzero, hok⟩ fuel collected
  exact ⟨after, hrun⟩

theorem exchange_empty_buffer {w : World} (hr : Ready w) (hzero : w.client.mBufferSize = 0)
    (fuel : Nat) : ∃ after, (exchange fuel).run w = .error .running after := by
  obtain ⟨ec, rest, events, hok, hexchange⟩ := hr.exchange_eq
  rw [hexchange]
  exact readLoop_empty_buffer fuel [] (w := w.wrote ec rest events) hr.opened hok hzero

theorem exchange_negative_buffer {w : World} (hr : Ready w)
    (hneg : w.client.mBufferSize.toInt < 0) (fuel : Nat) :
    ∃ after, (exchange (fuel + 1)).run w = .error (.threw .lengthError) after := by
  obtain ⟨ec, rest, events, hok, hexchange⟩ := hr.exchange_eq
  rw [hexchange]
  let sent := w.wrote ec rest events
  exact ⟨sent, SocketLayer.readLoop_negative (L := scriptedLayer) (s := sent) hok hneg fuel []⟩

theorem not_receivesAll {n : Int32} {w : World}
    (h : ∀ fuel, ∃ e after, (exchange (fuel + 1)).run (w.withBufferSize n) = .error e after) :
    ¬ ReceivesAll n w := by
  intro ⟨rounds, hreturns⟩
  obtain ⟨after, hrun⟩ := hreturns (rounds + 1) (by omega)
  obtain ⟨e, stopped, hstops⟩ := h rounds
  rw [EStateM.run_bind, setBufferSize_run] at hrun
  cases hrun.symm.trans hstops

theorem receivesAll_iff {w : World} (hr : Ready w) (n : Int32) :
    ReceivesAll n w ↔ 1 ≤ n.toInt := by
  have hready := hr.withBufferSize n
  constructor
  · intro hall
    by_contra hsmall
    rcases Int.lt_or_eq_of_le (show n.toInt ≤ 0 by omega) with hneg | hzero
    · exact not_receivesAll (fun fuel => ⟨_, exchange_negative_buffer hready hneg fuel⟩) hall
    · have hn : n = 0 := Int32.toInt_inj.1 hzero
      exact not_receivesAll (fun fuel => ⟨_, exchange_empty_buffer hready hn (fuel + 1)⟩) hall
  · intro hpos
    refine ⟨w.net.stream.length, ?_⟩
    intro fuel hfuel
    obtain ⟨ec, rest, events, hexchange⟩ := exchange_run hready hpos hfuel
    exact ⟨_, hexchange⟩

theorem receivesAll_one_byte :
    ReceivesAll 1 (.connected (.serving [⟨text "ab", by decide⟩] ⟨badDescriptor, rfl⟩)) :=
  (receivesAll_iff (ready_connected _ _) 1).2 (by decide)

/-- An empty buffer is read into for ever; one of a negative size cannot be made. -/
theorem buffer_size_not_positive :
    let w := World.connected (.serving [⟨text "a", by decide⟩] .eof)
    Ready w ∧ ¬ ReceivesAll 0 w ∧ ¬ ReceivesAll (-1) w ∧
      ∀ fuel, (∃ after, (exchange fuel).run (w.withBufferSize 0) = .error .running after) ∧
        ∃ after, (exchange (fuel + 1)).run (w.withBufferSize (-1)) =
          .error (.threw .lengthError) after := by
  intro w
  have hready : Ready w := ready_connected _ _
  have hempty := exchange_empty_buffer (hready.withBufferSize 0) rfl
  have hnegative := exchange_negative_buffer (hready.withBufferSize (-1)) (by decide)
  exact ⟨hready, not_receivesAll fun fuel => ⟨_, hempty (fuel + 1)⟩,
    not_receivesAll fun fuel => ⟨_, hnegative fuel⟩, fun fuel => ⟨hempty fuel, hnegative fuel⟩⟩

end AsioClient
