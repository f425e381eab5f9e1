import AsioClient.SessionRefinement
import AsioClient.UrlRouting

/-!
What keeps a call over asio from coming back and which exceptions leave it, told from the kernel's
answers.
-/

set_option autoImplicit false

namespace AsioClient
open Imperative

namespace Kernel

/-- A read from the stream into a buffer of the given size has no end. -/
def Endless (mBufferSize : Int32) (k : Kernel) : Prop :=
  mBufferSize = 0 ∨ 0 < mBufferSize.toInt ∧ arrivals k.recvs = none

/-- What stops the exchange over an open socket: a write or a poll that never returns, a wait that
fails, and the loop, which is entered behind a write that is taken. -/
inductive StopsExchange (mBufferSize : Int32) (k : Kernel) : Halt → Prop where
  | writing : written k.sends = none → StopsExchange mBufferSize k .running
  | polling {first : WriteResult} : written k.sends = some first → k.wait.answers = false →
      StopsExchange mBufferSize k .running
  | waiting {first : WriteResult} {e : Failure} : written k.sends = some first →
      k.wait.failure = some e → StopsExchange mBufferSize k (.threw (.systemError e.code))
  | reading {n : Nat} {pos : 0 < n} : written k.sends = some (.accepts n pos) →
      k.wait.answers = true → k.wait.failure = none → k.Endless mBufferSize →
      StopsExchange mBufferSize k .running
  | buffer {n : Nat} {pos : 0 < n} : written k.sends = some (.accepts n pos) →
      k.wait.answers = true → k.wait.failure = none → mBufferSize.toInt < 0 →
      StopsExchange mBufferSize k (.threw .lengthError)

inductive StopsRead (mBufferSize : Int32) (k : Kernel) : Halt → Prop where
  | exchange {e : Halt} : k.StopsExchange mBufferSize e → StopsRead mBufferSize k e
  | closing {e : Failure} : (∀ stop, ¬ k.StopsExchange mBufferSize stop) → k.closing = some e →
      StopsRead mBufferSize k (.threw (.systemError e.code))

structure Opens (made : Bool) (k : Kernel) : Prop where
  endpoints : k.endpoints ≠ []
  making : k.making made = none
  opening : k.opening = none

structure Connects (made : Bool) (k : Kernel) : Prop extends k.Opens made where
  answers : k.connect.answers = true
  failure : k.connect.failure = none

/-- What stops a download behind its request. -/
inductive StopsDial (made : Bool) (mBufferSize : Int32) (k : Kernel) : Halt → Prop where
  | reactor {e : Failure} : k.endpoints ≠ [] → k.making made = some e →
      StopsDial made mBufferSize k (.threw (.systemError e.code))
  | connecting : k.Opens made → k.connect.answers = false → StopsDial made mBufferSize k .running
  | reading {e : Halt} : k.Connects made → k.StopsRead mBufferSize e →
      StopsDial made mBufferSize k e

def StopsDownload (made : Bool) (mBufferSize : Int32) (url : Bytes) (k : Kernel)
    (e : Halt) : Prop :=
  match prepare url .GET with
  | .error exn => e = .threw exn
  | .ok _ => k.StopsDial made mBufferSize e

end Kernel

theorem stopsDownload_short {url : Bytes} (hlen : url.length < 2 ^ 31) {made : Bool}
    {mBufferSize : Int32} {k : Kernel} {e : Halt} :
    k.StopsDownload made mBufferSize url e ↔ k.StopsDial made mBufferSize e := by
  obtain ⟨request, hp⟩ := prepare_short hlen
  unfold Kernel.StopsDownload
  rw [hp]

/-- What matters of a client for how its next call ends: whether it has a socket and an open one,
whether there is a reactor, and the buffer size. -/
structure Standing where
  opened : Option Bool
  made : Bool
  mBufferSize : Int32

def Host.standing (h : Host) : Standing :=
  ⟨h.impl?.map SocketImpl.isOpen, h.reactor, h.client.mBufferSize⟩

def Standing.StopsRead (standing : Standing) (k : Kernel) (e : Halt) : Prop :=
  match standing.opened with
  | none => e = .undefined
  | some true => k.StopsRead standing.mBufferSize e
  | some false => False

def PublicCall.Stops (standing : Standing) (k : Kernel) (e : Halt) : PublicCall → Prop
  | .call (.downloadString url _) => k.StopsDownload standing.made standing.mBufferSize url e
  | .call (.downloadByteData url _) => k.StopsDownload standing.made standing.mBufferSize url e
  | .call (.setBufferSize _) => False
  | .readBytesFromSocket => standing.StopsRead k e
  | .readFromSocket => standing.StopsRead k e
  | .getEndpointsFromString _ _ => False

theorem received_eq_none_iff (mBufferSize : Int32) (k : Kernel) :
    k.received mBufferSize = none ↔ k.Endless mBufferSize := by
  unfold Kernel.received Kernel.stream Kernel.Endless
  by_cases hzero : mBufferSize = 0
  · subst hzero
    exact iff_of_true rfl (.inl rfl)
  · have hne : mBufferSize.toInt ≠ 0 := fun h => hzero (Int32.toInt_inj.1 h)
    by_cases hneg : mBufferSize.toInt < 0
    · have hpos : ¬ 0 < mBufferSize.toInt := by omega
      simp [hneg, hzero, hpos]
    · have hpos : 0 < mBufferSize.toInt := by omega
      simp [hneg, hzero, hpos]

theorem received_eq_error_iff (mBufferSize : Int32) (k : Kernel) (e : Exn) :
    k.received mBufferSize = some (.error e) ↔ mBufferSize.toInt < 0 ∧ e = .lengthError := by
  unfold Kernel.received
  by_cases hneg : mBufferSize.toInt < 0
  · simp [hneg, eq_comm]
  · by_cases hzero : mBufferSize = 0
    · simp [hzero]
    · simp [hneg, hzero]

theorem settled_stops_iff {σ α : Type} (answer : Option (Except Exn α)) (s : σ) (e : Halt) :
    outcome ((settled answer).run s) = .error e ↔
      answer = none ∧ e = .running ∨ ∃ exn, answer = some (.error exn) ∧ e = .threw exn := by
  match answer with
  | some (.ok a) => simp [settled, outcome]
  | some (.error exn) => simp [settled, outcome, eq_comm]
  | none => simp [settled, outcome, eq_comm]

section Stops

variable {k : Kernel} {s : Session} {e : Halt}

theorem stopsExchange_iff {mBufferSize : Int32} {first : WriteResult}
    (hw : written k.sends = some first) :
    k.StopsExchange mBufferSize e ↔
      k.wait.answers = false ∧ e = .running ∨
        (∃ f, k.wait.failure = some f ∧ e = .threw (.systemError f.code)) ∨
        (first.failure = none ∧ k.wait.answers = true ∧ k.wait.failure = none) ∧
          (k.Endless mBufferSize ∧ e = .running ∨
            mBufferSize.toInt < 0 ∧ e = .threw .lengthError) := by
  constructor
  · intro h
    cases h with
    | writing hnone => simp [hw] at hnone
    | polling _ hno => exact .inl ⟨hno, rfl⟩
    | waiting _ hf => exact .inr (.inl ⟨_, hf, rfl⟩)
    | reading hsome hans hf hend =>
      obtain rfl := Option.some.inj (hw.symm.trans hsome)
      exact .inr (.inr ⟨⟨rfl, hans, hf⟩, .inl ⟨hend, rfl⟩⟩)
    | buffer hsome hans hf hneg =>
      obtain rfl := Option.some.inj (hw.symm.trans hsome)
      exact .inr (.inr ⟨⟨rfl, hans, hf⟩, .inr ⟨hneg, rfl⟩⟩)
  · rintro (⟨hno, rfl⟩ | ⟨f, hf, rfl⟩ | ⟨⟨htaken, hans, hf⟩, hloop⟩)
    · exact .polling hw hno
    · exact .waiting hw hf
    · cases first with
      | fails f => cases htaken
      | accepts n pos =>
        rcases hloop with ⟨hend, rfl⟩ | ⟨hneg, rfl⟩
        · exact .reading hw hans hf hend
        · exact .buffer hw hans hf hneg

theorem answer_stops_iff {mBufferSize : Int32} {first : WriteResult}
    (hw : written k.sends = some first) :
    (k.answer first mBufferSize = none ∧ e = .running ∨
      ∃ exn, k.answer first mBufferSize = some (.error exn) ∧ e = .threw exn) ↔
      k.StopsExchange mBufferSize e := by
  rw [stopsExchange_iff hw]
  unfold Kernel.answer
  cases hanswers : k.wait.answers with
  | false =>
    have hwait : k.wait.failure = none := by
      cases hf : k.wait.failure with
      | none => rfl
      | some f => simp [PollReply.answers_of_failure hf] at hanswers
    simp [hwait]
  | true =>
    cases hwait : k.wait.failure with
    | some f => simp [eq_comm]
    | none =>
      cases first with
      | fails f => simp [WriteResult.failure]
      | accepts n pos => simp [WriteResult.failure, received_eq_none_iff, received_eq_error_iff]

theorem exchange_stops_iff (request : Prepared) :
    outcome ((Session.exchange k request).run s) = .error e ↔
      k.StopsExchange s.mBufferSize e := by
  unfold Session.exchange
  cases hw : written k.sends with
  | none =>
    constructor
    · intro h
      obtain rfl : Halt.running = e := Except.error.inj h
      exact .writing hw
    · intro h
      cases h with
      | writing _ => rfl
      | polling hsome _ => simp [hw] at hsome
      | waiting hsome _ => simp [hw] at hsome
      | reading hsome _ _ _ => simp [hw] at hsome
      | buffer hsome _ _ _ => simp [hw] at hsome
  | some first =>
    rw [← answer_stops_iff hw]
    exact settled_stops_iff _ _ _

theorem close_stops_iff (bytes : Bytes) :
    outcome ((Session.close k >>= fun _ => pure bytes : EStateM Halt Session Bytes).run s) =
      .error e ↔ ∃ f, k.closing = some f ∧ e = .threw (.systemError f.code) := by
  unfold Session.close
  cases k.closing with
  | none => exact iff_of_false (fun h => by cases h) (by simp)
  | some f =>
    show Except.error (Halt.threw (.systemError f.code)) = .error e ↔ _
    simp [eq_comm]

theorem readOpened_stops_iff (request : Prepared) :
    outcome ((do
      let bytes ← Session.exchange k request
      Session.close k
      pure bytes).run s) = .error e ↔ k.StopsRead s.mBufferSize e := by
  rw [outcome_bind_eq_error_iff, exchange_stops_iff]
  simp only [close_stops_iff]
  constructor
  · rintro (h | ⟨bytes, t, hrun, f, hf, rfl⟩)
    · exact .exchange h
    · -- the close is reached because nothing stopped the exchange
      refine .closing (fun stop hstop => ?_) hf
      have hstops := (exchange_stops_iff request).2 hstop
      rw [hrun] at hstops
      cases hstops
  · rintro (h | ⟨hno, hf⟩)
    · exact .inl h
    · cases hrun : (Session.exchange k request).run s with
      | ok bytes t => exact .inr ⟨bytes, t, rfl, _, hf, rfl⟩
      | error stop t =>
        refine absurd ((exchange_stops_iff request).1 ?_) (hno stop)
        rw [hrun]
        rfl

def SessionSocket.opened? : SessionSocket → Option Bool
  | .unset => none
  | .closed => some false
  | .opened _ => some true

def Session.standing (s : Session) : Standing := ⟨s.socket.opened?, s.reactor, s.mBufferSize⟩

theorem readBytes_stops_iff :
    outcome ((Session.readBytes k).run s) = .error e ↔ s.standing.StopsRead k e := by
  unfold Session.readBytes Session.standing Standing.StopsRead
  rw [run_reading_bind]
  cases s.socket with
  | unset =>
    show Except.error Halt.undefined = .error e ↔ e = .undefined
    simp [eq_comm]
  | closed => exact iff_of_false (by simp [outcome]) id
  | opened request => exact readOpened_stops_iff request

theorem stopsDial_iff {made : Bool} {mBufferSize : Int32} :
    k.StopsDial made mBufferSize e ↔
      k.endpoints ≠ [] ∧ (∃ f, k.making made = some f ∧ e = .threw (.systemError f.code)) ∨
        k.Opens made ∧ (k.connect.answers = false ∧ e = .running ∨
          (k.connect.answers = true ∧ k.connect.failure = none) ∧ k.StopsRead mBufferSize e) := by
  constructor
  · intro h
    cases h with
    | reactor hends hf => exact .inl ⟨hends, _, hf, rfl⟩
    | connecting hopens hno => exact .inr ⟨hopens, .inl ⟨hno, rfl⟩⟩
    | reading hconnects hstops =>
      exact .inr ⟨hconnects.toOpens, .inr ⟨⟨hconnects.answers, hconnects.failure⟩, hstops⟩⟩
  · rintro (⟨hends, f, hf, rfl⟩ | ⟨hopens, ⟨hno, rfl⟩ | ⟨⟨hans, hf⟩, hstops⟩⟩)
    · exact .reactor hends hf
    · exact .connecting hopens hno
    · exact .reading { hopens with answers := hans, failure := hf } hstops

theorem opens_iff {made : Bool} :
    k.Opens made ↔ k.endpoints ≠ [] ∧ k.making made = none ∧ k.opening = none :=
  ⟨fun h => ⟨h.endpoints, h.making, h.opening⟩, fun ⟨hends, hmaking, hopening⟩ =>
    ⟨hends, hmaking, hopening⟩⟩

theorem dial_stops_iff (request : Prepared) (use : HttpContentData → Bytes) :
    outcome ((do
      if ← Session.connectToFirst k request k.endpoints then do
        let bytes ← Session.readBytes k
        pure (use (extractData bytes))
      else pure []).run s) = .error e ↔ k.StopsDial s.reactor s.mBufferSize e := by
  rw [stopsDial_iff, opens_iff]
  cases hends : k.endpoints with
  | nil => exact iff_of_false (fun h => by cases h) (by simp)
  | cons endpoint rest =>
    rw [EStateM.run_bind, Session.connectToFirst_run]
    cases hmaking : k.making s.reactor with
    | some f =>
      show Except.error (Halt.threw (.systemError f.code)) = .error e ↔ _
      rw [Except.error.injEq, eq_comm]
      simp
    | none =>
      cases hopening : k.opening with
      | some f => exact iff_of_false (fun h => by cases h) (by simp)
      | none =>
        cases hanswers : k.connect.answers with
        | false =>
          show Except.error Halt.running = .error e ↔ _
          simp [eq_comm]
        | true =>
          cases hfailure : k.connect.failure with
          | some f => exact iff_of_false (fun h => by cases h) (by simp)
          | none =>
            simp only [↓reduceIte, Option.isNone_none]
            rw [outcome_bind_pure_eq_error_iff, readBytes_stops_iff]
            show k.StopsRead s.mBufferSize e ↔ _
            simp

theorem download_stops_iff (url : Bytes) (port : Int32) (use : HttpContentData → Bytes) :
    outcome ((Session.download k url port use).run s) = .error e ↔
      k.StopsDownload s.reactor s.mBufferSize url e := by
  unfold Session.download Kernel.StopsDownload
  rw [prepareRequest_eq]
  cases prepareRequest url with
  | error exn =>
    show Except.error (Halt.threw exn) = .error e ↔ e = .threw exn
    simp [eq_comm]
  | ok r => exact dial_stops_iff r.1 use

theorem perform_stops_iff (call : PublicCall) (k : Kernel) (fuel : Nat) :
    outcome (s.perform ⟨call, k, fuel⟩) = .error e ↔ call.Stops s.standing k e := by
  unfold Session.perform Session.execPublic
  cases call with
  | call c =>
    dsimp only
    rw [outcome_bind_pure_eq_error_iff]
    cases c with
    | downloadString url port =>
      exact download_stops_iff (s := s.start) url port fun result => getStringResult result.Body
    | downloadByteData url port =>
      exact download_stops_iff (s := s.start) url port fun result => result.Body
    | setBufferSize size => exact iff_of_false (fun h => by cases h) id
  | readBytesFromSocket =>
    dsimp only
    rw [outcome_bind_pure_eq_error_iff]
    exact readBytes_stops_iff (s := s.start)
  | readFromSocket =>
    dsimp only
    rw [outcome_bind_pure_eq_error_iff]
    exact readBytes_stops_iff (s := s.start)
  | getEndpointsFromString stringUrl port => exact iff_of_false (fun h => by cases h) id

end Stops

theorem Carries.standing_eq {h : Host} {s : Session} (hc : Carries True h s) :
    h.standing = s.standing := by
  have hsocket := hc.socket trivial
  have hopened : h.impl?.map SocketImpl.isOpen = s.socket.opened? := by
    cases hs : s.socket with
    | unset =>
      rw [hs] at hsocket
      exact congrArg _ hsocket
    | closed =>
      rw [hs] at hsocket
      exact congrArg _ hsocket
    | opened request =>
      rw [hs] at hsocket
      obtain ⟨-, d, -, himpl⟩ := hsocket
      exact congrArg _ himpl
  unfold Host.standing Session.standing
  rw [hopened, hc.reactor, hc.mBufferSize]

section Fuel

variable {h : Host} {s : Session} {call : PublicCall} {k : Kernel} {e : Halt} {fuel : Nat}

theorem execPublic_stops_iff (hc : Carries True h s) (hfuel : (k.stream.getD []).length < fuel) :
    outcome (h.execPublic ⟨call, k, fuel⟩) = .error e ↔ call.Stops h.standing k e := by
  have henough : HostPublicStep.EnoughFuel ⟨call, k, fuel⟩ := hfuel
  rw [(carries_execPublic hc henough).outcome_eq, perform_stops_iff, hc.standing_eq]

/-- A call that does not run out of fuel ends as it would with more. -/
theorem execPublic_settled (hc : Carries True h s)
    (hback : outcome (h.execPublic ⟨call, k, fuel⟩) ≠ .error .running) :
    outcome (h.execPublic ⟨call, k, fuel⟩) = .error e ↔ call.Stops h.standing k e := by
  have hmore : fuel ≤ max fuel ((k.stream.getD []).length + 1) := Nat.le_max_left _ _
  have henough : (k.stream.getD []).length < max fuel ((k.stream.getD []).length + 1) := by omega
  rw [← execPublic_stops_iff hc henough]
  rcases SocketLayer.outlasts_execPublic (L := asioLayer) hmore call (h.start k) with
    ⟨t, hstops⟩ | hsame
  · exact absurd (congrArg outcome hstops) hback
  · exact (congrArg (outcome · = _) hsame).symm.to_iff

theorem afterPublic_isSome_iff : (h.afterPublic ⟨call, k, fuel⟩).isSome ↔
    outcome (h.execPublic ⟨call, k, fuel⟩) ≠ .error .running ∧
      outcome (h.execPublic ⟨call, k, fuel⟩) ≠ .error .undefined := by
  unfold Host.afterPublic
  rw [isSome_cameBack_iff]
  constructor
  · intro hends
    constructor
    · intro hrunning
      cases hends _ hrunning
    · intro hundefined
      cases hends _ hundefined
  · rintro ⟨hrunning, hundefined⟩ e he
    cases e with
    | threw exn => rfl
    | running => exact absurd he hrunning
    | undefined => exact absurd he hundefined

end Fuel

section Reached

variable {k₀ : Kernel} {steps : List HostPublicStep} {h : Host}

/-- A call comes back, by returning or by throwing, unless the kernel keeps it waiting or it reads
without a socket. -/
theorem call_returns_iff (hrun : (Host.init k₀).afterAllPublic steps = some h)
    (call : PublicCall) (k : Kernel) :
    (∃ fuel, (h.afterPublic ⟨call, k, fuel⟩).isSome) ↔
      ¬ call.Stops h.standing k .running ∧ ¬ call.Stops h.standing k .undefined := by
  obtain ⟨s, -, hc⟩ := carries_afterAllPublic (carries_init k₀) hrun
  constructor
  · rintro ⟨fuel, hback⟩
    have hends := afterPublic_isSome_iff.1 hback
    rwa [← execPublic_settled hc hends.1, ← execPublic_settled hc hends.1]
  · have henough := Nat.lt_succ_self (k.stream.getD []).length
    rw [← execPublic_stops_iff hc henough, ← execPublic_stops_iff hc henough]
    exact fun hends => ⟨_, afterPublic_isSome_iff.2 hends⟩

theorem call_returns_iff_silent :
    let k := { Kernel.slow ⟨text "a", by decide⟩ with wait := .never }
    ¬ ∃ fuel, ((Host.init k).afterPublic
      ⟨.call (.downloadString (text "http://a/") 80), k, fuel⟩).isSome := by
  intro k hback
  have hconnects : k.Connects false := ⟨⟨by decide, rfl, rfl⟩, rfl, rfl⟩
  have hstops : k.StopsDownload false 4096 (text "http://a/") .running :=
    (stopsDownload_short (by decide)).2 (.reading hconnects (.exchange (.polling rfl rfl)))
  have hnew : (Host.init k).afterAllPublic [] = some (Host.init k) := rfl
  exact ((call_returns_iff hnew _ k).1 hback).1 hstops

/-- The exceptions of a call. Failures to resolve, to open, to connect, to write and to read do not
show in them. -/
theorem call_throws_iff (hrun : (Host.init k₀).afterAllPublic steps = some h)
    (call : PublicCall) (k : Kernel) (e : Exn) :
    (∃ fuel, outcome (h.execPublic ⟨call, k, fuel⟩) = .error (.threw e)) ↔
      call.Stops h.standing k (.threw e) := by
  obtain ⟨s, -, hc⟩ := carries_afterAllPublic (carries_init k₀) hrun
  constructor
  · rintro ⟨fuel, hthrows⟩
    refine (execPublic_settled hc ?_).1 hthrows
    rw [hthrows]
    simp
  · intro hstops
    have henough := Nat.lt_succ_self (k.stream.getD []).length
    exact ⟨_, (execPublic_stops_iff hc henough).2 hstops⟩

theorem call_throws_full_table :
    let full : ReactorReplies :=
      { ReactorReplies.ready with eventfd := .error ⟨24, rfl⟩, pipe := .error ⟨24, rfl⟩ }
    let k := { Kernel.slow ⟨text "a", by decide⟩ with reactor := full }
    ∃ fuel, outcome ((Host.init k).execPublic
        ⟨.call (.downloadString (text "http://a/") 80), k, fuel⟩) =
      .error (.threw (.systemError ⟨24, .asioSystem⟩)) := by
  intro full k
  have hends : k.endpoints ≠ [] := by decide
  have hmaking : k.making false = some (Errno.mk 24 rfl).failure := rfl
  have hstops : k.StopsDownload false 4096 (text "http://a/")
      (.threw (.systemError ⟨24, .asioSystem⟩)) :=
    (stopsDownload_short (by decide)).2 (.reactor hends hmaking)
  have hnew : (Host.init k).afterAllPublic [] = some (Host.init k) := rfl
  exact (call_throws_iff hnew _ k _).2 hstops

end Reached

end AsioClient
