import AsioClient.CallOutcomes
import AsioClient.CallTraffic
import AsioClient.FileAccess
import AsioClient.RequestLines
import Mathlib.Data.List.TakeWhile

/-!
`main` from its standard input to the kernel. `std::cin >> url` stops at white space, so a word is
all that a URL can be there: the line ends and blanks that the public functions let through do not
come this way.
-/

set_option autoImplicit false

namespace AsioClient
open BufferedStream Imperative

/-- `std::cin >> s` for a `std::string`: the word, and the input behind it. At the end of the
input the string stays empty. -/
def extractWord (input : Bytes) : Bytes × Bytes :=
  let rest := input.dropWhile fun c => isSpace c
  (rest.takeWhile fun c => ¬ isSpace c, rest.dropWhile fun c => ¬ isSpace c)

def ConsoleInput.ofStdin (input : Bytes) : ConsoleInput :=
  let (url, rest) := extractWord input
  ⟨url, (extractWord rest).1⟩

def SocketLayer.mainOverStdin {σ : Type} (L : SocketLayer σ) (fuel : Nat) (stdin : Bytes)
    (opens : Bool) (held : Nat) : EStateM Halt σ (Int32 × Heap) :=
  L.mainProgram fuel (.ofStdin stdin) opens held

theorem extractWord_clean {input : Bytes} {c : UInt8} (hc : c ∈ (extractWord input).1) :
    ¬ isSpace c := by
  simpa using List.mem_takeWhile_imp hc

theorem extractWord_isInfix (input : Bytes) : (extractWord input).1 <:+: input :=
  (List.takeWhile_prefix _).isInfix.trans (List.dropWhile_suffix _).isInfix

def Event.sent? : Event → Option Bytes
  | .sent data => some data
  | _ => none

theorem sentBytes_eq (trace : List Event) :
    sentBytes trace = (trace.filterMap Event.sent?).flatten := by
  induction trace with
  | nil => rfl
  | cons e rest ih =>
    have hcons : sentBytes (e :: rest) = (e.sent?.getD []) ++ sentBytes rest := by
      cases e <;> rfl
    rw [hcons, ih]
    cases e <;> rfl

theorem DownloadTraffic.sentBytes {url : Bytes} {port : Int32} {endpoints : List Endpoint}
    {events : List Event} (h : DownloadTraffic url port endpoints events) :
    sentBytes events = [] ∨
      ∃ header name, prepare url .GET = .ok (header, name) ∧
        AsioClient.sentBytes events <+: header := by
  unfold DownloadTraffic at h
  cases hp : prepare url .GET with
  | error e =>
    rw [hp] at h
    exact .inl (by rw [h]; rfl)
  | ok request =>
    obtain ⟨header, name⟩ := request
    rw [hp] at h
    cases endpoints with
    | nil => exact .inl (by rw [h]; rfl)
    | cons endpoint rest =>
      obtain ⟨n, hsub⟩ := h
      have hsent : (events.filterMap Event.sent?).Sublist [header.take n] :=
        hsub.filterMap Event.sent?
      rw [sentBytes_eq]
      rcases List.sublist_singleton.1 hsent with hnone | hone
      · exact .inl (by rw [hnone]; rfl)
      · refine .inr ⟨header, name, rfl, ?_⟩
        rw [hone]
        simpa using List.take_prefix n header

theorem asio_mainProgram_trace (fuel : Nat) (input : ConsoleInput) (opens : Bool) (held : Nat)
    (h : Host) :
    (endState ((asioLayer.mainProgram fuel input opens held).run h)).trace =
      if input.url = [] then h.trace
      else (endState ((asioLayer.downloadByteData fuel input.url 80).run h)).trace := by
  have hkeeps : ∀ result : Bytes, Keeps Host.trace (if 0 < result.length then
      if input.filePath.isEmpty then pure (0, [])
      else pure (0, fileScope input.filePath opens [.bytes result held] [])
    else pure (0, []) : EStateM Halt Host (Int32 × Heap)) :=
    fun result => .ite (.ite (.pure _) (.pure _)) (.pure _)
  unfold SocketLayer.mainProgram
  by_cases hurl : input.url = []
  · simp only [hurl, List.length_nil, Nat.lt_one_iff, ↓reduceIte]
    rfl
  · have hlen : ¬ input.url.length < 1 := by simpa [Nat.lt_one_iff] using hurl
    simp only [hlen, hurl, ↓reduceIte]
    exact Keeps.endState_bind hkeeps _ h

theorem RequestParts.clean {url target host : Bytes} (h : RequestParts url target host)
    (hline : cr ∉ url) (hblank : space ∉ url) :
    ¬ crlf <:+: target ∧ space ∉ target ∧ ¬ crlf <:+: host := by
  have hcr : cr ∈ crlf := by decide
  have hhost : ¬ crlf <:+: host := fun hin => hline ((hin.trans h.host_part).mem hcr)
  rcases h.target_part with rfl | hsub
  · exact ⟨by decide, by decide, hhost⟩
  · exact ⟨fun hin => hline ((hin.trans hsub).mem hcr), fun hin => hblank (hsub.mem hin), hhost⟩

/-- Whatever is typed into it and whatever the kernel does, `main` sends nothing or the beginning
of one well-formed request. Its host stands in the input, and so does its target unless that is the
default index file. -/
theorem main_sends_one_request (fuel : Nat) (stdin : Bytes) (opens : Bool) (held : Nat)
    (k : Kernel) :
    let sent := sentBytes
      (endState ((asioLayer.mainOverStdin fuel stdin opens held).run (Host.init k))).trace
    sent = [] ∨ ∃ target host, sent <+: requestText target host ∧
      WellFormedRequest (requestText target host) ∧
      readRequest (requestText target host) = some ⟨text "GET", target, text "HTTP/1.1", host⟩ ∧
      host <:+: stdin ∧ (target = requestDefaultIndexfile ∨ target <:+: stdin) := by
  intro sent
  unfold sent SocketLayer.mainOverStdin
  rw [asio_mainProgram_trace]
  have hword := extractWord_isInfix stdin
  have hclean : ∀ c, isSpace c → c ∉ (ConsoleInput.ofStdin stdin).url :=
    fun c hc hmem => extractWord_clean hmem hc
  split
  · exact .inl rfl
  · have htraffic := @download_traffic (Host.init k) rfl fuel (ConsoleInput.ofStdin stdin).url 80
      fun result => result.Body
    rcases htraffic.sentBytes with hnone | ⟨header, name, hp, hsent⟩
    · exact .inl hnone
    · obtain ⟨target, hparts, rfl⟩ := prepare_ok hp
      obtain ⟨ht, hs, hh⟩ := hparts.clean (hclean cr (by decide)) (hclean space (by decide))
      have hpart : target = requestDefaultIndexfile ∨ target <:+: stdin := by
        rcases hparts.target_part with hdefault | hin
        · exact .inl hdefault
        · exact .inr (hin.trans hword)
      exact .inr ⟨target, name, hsent, (wellFormed_requestText_iff target name).2 ⟨ht, hs, hh⟩,
        readRequest_requestText ht hs hh, hparts.host_part.trans hword, hpart⟩

/-- An exception that leaves `main` terminates the program. -/
inductive Exit where
  | code (n : Int32) (heap : Heap)
  | terminated
  deriving DecidableEq

def exitOf {σ : Type} : EStateM.Result Halt σ (Int32 × Heap) → Option Exit
  | .ok (n, heap) _ => some (.code n heap)
  | .error (.threw _) _ => some .terminated
  | .error _ _ => none

namespace Kernel

/-- What a read from an open socket comes to, the close included; `none` if it never comes back. -/
def responded (mBufferSize : Int32) (k : Kernel) : Option (Except Exn Bytes) :=
  match written k.sends with
  | none => none
  | some first =>
    match k.answer first mBufferSize, k.closing with
    | some (.ok _), some e => some (.error (.systemError e.code))
    | answer, _ => answer

def delivered (k : Kernel) : Option (Except Exn Bytes) :=
  match k.endpoints, k.making false, k.opening, k.connect.failure with
  | [], _, _, _ => some (.ok [])
  | _ :: _, some e, _, _ => some (.error (.systemError e.code))
  | _ :: _, none, some _, _ => some (.ok [])
  | _ :: _, none, none, failure =>
    if !k.connect.answers then none
    else if failure.isSome then some (.ok [])
    else (k.responded 4096).map (Except.map fun bytes => (extractData bytes).Body)

end Kernel

theorem valueOf_congr {σ τ : Type} {r : EStateM.Result Halt σ Bytes}
    {r' : EStateM.Result Halt τ Bytes} (h : outcome r = outcome r') : valueOf r = valueOf r' := by
  cases r with
  | ok v s =>
    cases r' with
    | ok v' t =>
      obtain rfl := Except.ok.inj h
      rfl
    | error e t => cases h
  | error e s =>
    cases r' with
    | ok v t => cases h
    | error e' t =>
      obtain rfl := Except.error.inj h
      cases e with
      | threw e => rfl
      | running => rfl
      | undefined => rfl

theorem valueOf_readBytes (k : Kernel) {s : Session} {request : Prepared}
    (hs : s.socket = .opened request) :
    valueOf ((Session.readBytes k).run s) = k.responded s.mBufferSize := by
  have hmBufferSize : ∀ events e, ((s.log events).report e).mBufferSize = s.mBufferSize :=
    fun _ _ => rfl
  unfold Session.readBytes Kernel.responded
  rw [run_reading_bind, hs]
  simp only [Session.exchange]
  cases written k.sends with
  | none => rfl
  | some first =>
    simp only [EStateM.run_bind, run_modify, run_reading, hmBufferSize]
    match k.answer first s.mBufferSize with
    | none => rfl
    | some (.error e) => rfl
    | some (.ok bytes) =>
      simp only [settled, run_guarded_ok, Session.close, EStateM.run_bind, run_modify]
      cases k.closing with
      | none => rfl
      | some e => rfl

theorem valueOf_bind_pure {σ : Type} (p : EStateM Halt σ Bytes) (f : Bytes → Bytes) (s : σ) :
    valueOf ((p >>= fun bytes => pure (f bytes)).run s) =
      (valueOf (p.run s)).map (Except.map f) := by
  rw [EStateM.run_bind]
  cases p.run s with
  | ok bytes t => rfl
  | error e t =>
    cases e with
    | threw e => rfl
    | running => rfl
    | undefined => rfl

theorem valueOf_download_init {url : Bytes} (hlen : url.length < 2 ^ 31) (port : Int32)
    (k : Kernel) :
    valueOf ((Session.download k url port fun result => result.Body).run Session.init) =
      k.delivered := by
  obtain ⟨request, hp⟩ := prepare_short hlen
  rw [prepareRequest_eq] at hp
  unfold Session.download Kernel.delivered
  cases hr : prepareRequest url with
  | error e =>
    rw [hr] at hp
    cases hp
  | ok r =>
    obtain ⟨request, name⟩ := r
    have hmade : (Session.init.ask request name port).reactor = false := rfl
    rw [EStateM.run_bind, run_guarded_ok]
    dsimp only
    rw [EStateM.run_bind, run_modify]
    dsimp only
    cases k.endpoints with
    | nil => rfl
    | cons endpoint rest =>
      rw [EStateM.run_bind, Session.connectToFirst_run, hmade]
      cases k.making false with
      | some e => rfl
      | none =>
        cases k.opening with
        | some e => rfl
        | none =>
          cases k.connect.answers with
          | false => rfl
          | true =>
            cases k.connect.failure with
            | some e => rfl
            | none =>
              simp only [↓reduceIte, Option.isNone_none, Bool.not_true, Bool.false_eq_true,
                Option.isSome_none]
              rw [valueOf_bind_pure]
              let t :=
                ((Session.init.ask request name port).renew.dial request endpoint).report none
              have hread : valueOf ((Session.readBytes k).run t) = k.responded 4096 :=
                valueOf_readBytes k rfl
              exact congrArg (Option.map _) hread

def filesOf (filePath : Bytes) (opens : Bool) (held : Nat) (result : Bytes) : Heap :=
  if result = [] ∨ filePath = [] then []
  else if opens then [⟨filePath, true, Stream.empty.write ⟨result, held⟩⟩]
  else [⟨filePath, false, .empty⟩]

/-- How `main` ends, read off its input and the kernel; `none` if it never does. -/
def mainExit (input : ConsoleInput) (opens : Bool) (held : Nat) (k : Kernel) : Option Exit :=
  if input.url = [] then some (.code 2 [])
  else k.delivered.map fun
    | .error _ => .terminated
    | .ok result => .code 0 (filesOf input.filePath opens held result)

theorem fileScope_single (filePath : Bytes) (opens : Bool) (result : Bytes) (held : Nat) :
    fileScope filePath opens [.bytes result held] [] =
      if opens then [⟨filePath, true, Stream.empty.write ⟨result, held⟩⟩]
      else [⟨filePath, false, .empty⟩] := by
  cases opens with
  | true => exact fileScope_open filePath [.bytes result held] []
  | false => rfl

/-- The whole of `main` over any kernel: code 2 and no file for an input without a word. Else it
hangs with its download, is terminated by the exceptions of the reactor, the wait and the close, or
ends with code 0 and what it could save. -/
theorem main_exit {stdin : Bytes} (hshort : stdin.length < 2 ^ 31) (k : Kernel) {fuel : Nat}
    (hfuel : (k.stream.getD []).length < fuel) (opens : Bool) (held : Nat) :
    exitOf ((asioLayer.mainOverStdin fuel stdin opens held).run (Host.init k)) =
      mainExit (.ofStdin stdin) opens held k := by
  have hlen : (ConsoleInput.ofStdin stdin).url.length < 2 ^ 31 :=
    Nat.lt_of_le_of_lt (extractWord_isInfix stdin).length_le hshort
  unfold SocketLayer.mainOverStdin
  generalize ConsoleInput.ofStdin stdin = input at hlen ⊢
  have hlong : ((Host.init k).kernel.stream.getD []).length < fuel := hfuel
  have hsame := same_download (carries_init k) hlong input.url 80 fun result => result.Body
  have hvalue : valueOf ((asioLayer.downloadByteData fuel input.url 80).run (Host.init k)) =
      k.delivered := (valueOf_congr hsame.outcome_eq).trans (valueOf_download_init hlen 80 k)
  unfold SocketLayer.mainProgram mainExit
  by_cases hurl : input.url = []
  · simp only [hurl, List.length_nil, Nat.lt_one_iff, ↓reduceIte]
    rfl
  · have hpos : ¬ input.url.length < 1 := by simpa [Nat.lt_one_iff] using hurl
    simp only [hpos, hurl, ↓reduceIte, EStateM.run_bind]
    rw [← hvalue]
    cases (asioLayer.downloadByteData fuel input.url 80).run (Host.init k) with
    | error e h =>
      cases e with
      | threw e => rfl
      | running => rfl
      | undefined => rfl
    | ok result h =>
      show _ = some (Exit.code 0 (filesOf input.filePath opens held result))
      unfold filesOf
      by_cases hresult : result = []
      · simp only [hresult, List.length_nil, Nat.lt_irrefl, true_or, ↓reduceIte]
        rfl
      · have hsome : 0 < result.length := List.length_pos_iff.2 hresult
        by_cases hpath : input.filePath = []
        · simp only [hsome, hpath, List.isEmpty_nil, or_true, ↓reduceIte]
          rfl
        · have hname : input.filePath.isEmpty = false := by simpa using hpath
          simp only [hsome, hresult, hpath, hname, or_self, Bool.false_eq_true, ↓reduceIte,
            fileScope_single]
          rfl

theorem main_exit_typed :
    exitOf ((asioLayer.mainOverStdin 9 (text " http://a/\n f g") true 1).run
        (Host.init (.slow ⟨text "H\r\n\r\nab", by decide⟩))) =
      some (.code 0 [⟨text "f", true, ⟨text "a", text "b"⟩⟩]) := by
  have hshort : (text " http://a/\n f g").length < 2 ^ 31 := by decide
  have hexit := main_exit hshort (.slow ⟨text "H\r\n\r\nab", by decide⟩)
    (show _ < 9 by decide) true 1
  exact hexit.trans (by decide +kernel)

end AsioClient
