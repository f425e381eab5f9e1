import AsioClient.AsioSockets

/-!
How the operations of one call turn out, read off the kernel's answers. Attempts that would
block leave no trace: what counts is the first answer that is not waited out.
-/

set_option autoImplicit false

namespace AsioClient

namespace PollReply

def failure : PollReply → Option Failure
  | .fails e => some e.failure
  | _ => none

def answers : PollReply → Bool
  | .never => false
  | _ => true

theorem answers_of_failure {reply : PollReply} {e : Failure} (h : reply.failure = some e) :
    reply.answers = true := by
  cases reply with
  | never => cases h
  | _ => rfl

end PollReply

section Attempts

variable {α : Type}

def Attempt.again (a : Attempt α) : Bool :=
  match a.reply with
  | .ok _ => false
  | .error e => e.code == wouldBlock && a.poll.answers && a.poll.failure.isNone

/-- What comes of an attempt that is not made again; `none` if its poll never returns. -/
def Attempt.outcome (a : Attempt α) : Option (Except Failure α) :=
  match a.reply with
  | .ok r => some (.ok r)
  | .error e =>
    if e.code = wouldBlock then
      if a.poll.answers then some (.error (a.poll.failure.getD e.failure)) else none
    else some (.error e.failure)

theorem Attempt.reply_of_outcome {a : Attempt α} {r : α} (h : a.outcome = some (.ok r)) :
    a.reply = .ok r := by
  unfold outcome at h
  cases hr : a.reply with
  | ok r' =>
    rw [hr] at h
    exact congrArg Except.ok (Except.ok.inj (Option.some.inj h))
  | error e =>
    rw [hr] at h
    dsimp only at h
    split at h
    · split at h
      · cases h
      · cases h
    · cases h

theorem Attempt.reply_of_outcome_error {a : Attempt α} {e : Failure}
    (h : a.outcome = some (.error e)) : ∃ e', a.reply = .error e' := by
  unfold outcome at h
  cases hr : a.reply with
  | ok r =>
    rw [hr] at h
    cases h
  | error e' => exact ⟨e', rfl⟩

end Attempts

def written (attempts : List (Attempt Taken)) : Option WriteResult :=
  match attempts.dropWhile Attempt.again with
  | [] => none
  | a :: _ =>
    match a.outcome with
    | some (.ok n) => some (.accepts n.1 n.2)
    | some (.error e) => some (.fails e)
    | none => none

/-- What a reader sees arrive, and how it ends; `none` if the end never comes. -/
def arrivals : List (Attempt Arrival) → Option (List Segment × Failure)
  | [] => none
  | a :: later =>
    if a.again then arrivals later
    else
      match a.outcome with
      | some (.ok (.data seg)) => (arrivals later).map fun r => (seg :: r.1, r.2)
      | some (.ok .shutdown) => some ([], .eof)
      | some (.error e) => some ([], e)
      | none => none

def systemFailure (value : Int32) : Option Failure :=
  if h : (value != 0) = true then some ⟨⟨value, .asioSystem⟩, h⟩ else none

namespace ConnectReplies

def failure (replies : ConnectReplies) : Option Failure :=
  match replies.connect with
  | .ok _ => none
  | .error e =>
    if e.code = tryAgain then some noBufferSpace
    else if e.code ≠ inProgress then some e.failure
    else
      match replies.poll.failure, replies.sockError with
      | some e, _ => some e
      | none, .error e => some e.failure
      | none, .ok connectError => systemFailure connectError

/-- Only a connect in progress is waited for. -/
def answers (replies : ConnectReplies) : Bool :=
  match replies.connect with
  | .ok _ => true
  | .error e => e.code != inProgress || replies.poll.answers

end ConnectReplies

namespace Kernel

def resolving (k : Kernel) : Except Failure (List Endpoint) :=
  let ec := translateAddrinfoError k.addrinfo.error k.addrinfo.errno
  if h : ec.isSet = true then .error ⟨ec, h⟩ else .ok (createResults k.addrinfo.addressInfo)

def opening (k : Kernel) : Option Failure :=
  match k.socket with
  | .error e => some e.failure
  | .ok _ => systemFailure (registerDescriptor k.epollCtl)

def closing (k : Kernel) : Option Failure :=
  match k.firstClose, k.secondClose with
  | .ok _, _ => none
  | .error e, .ok _ => if e.code = wouldBlock then none else some e.failure
  | .error e, .error e' => if e.code = wouldBlock then some e'.failure else some e.failure

/-- The script of a kernel that would make a reactor, comes back from its polls and ends the
stream. -/
def script (k : Kernel) : Option NetworkScript :=
  match makeReactor k.reactor, written k.sends, arrivals k.recvs with
  | .ok _, some first, some (reads, ending) =>
    if k.connect.answers && k.wait.answers then some
      { resolving := k.resolving
        opening := k.opening
        connecting := k.connect.failure
        writes := [first]
        waiting := k.wait.failure
        reads := reads
        ending := ending
        closing := k.closing }
    else none
  | _, _, _ => none

end Kernel

theorem finalError_stream (ec : ErrorCode) : finalError .stream ec = (ec != wouldBlock) := by
  unfold finalError StateType.stream
  rw [show tryAgain = wouldBlock from rfl, Bool.and_self, Bool.false_or]

def Reported {α : Type} (out : Except Failure α) (ec : ErrorCode) : Prop :=
  match out with
  | .ok _ => ec.isSet = false
  | .error e => ec = e.code

section Retry

variable {α : Type} {a : Attempt α}

theorem Attempt.error_of_again (h : a.again = true) :
    ∃ e, a.reply = .error e ∧ e.code = wouldBlock ∧ a.poll.answers = true ∧
      a.poll.failure = none := by
  unfold again at h
  cases hr : a.reply with
  | ok r =>
    rw [hr] at h
    cases h
  | error e =>
    rw [hr] at h
    simpa [and_assoc] using h

theorem pollReady_ready {reply : PollReply} (hanswers : reply.answers = true)
    (h : reply.failure = none) (s : Nat) (ec : ErrorCode) :
    ∃ result ec', pollReady (some s) .none reply ec = some (result, ec') ∧ ¬ result < 0 := by
  cases reply with
  | ready => exact ⟨1, ec.succeed, rfl, by decide⟩
  | timedOut => exact ⟨0, ec.succeed, rfl, by decide⟩
  | fails e => cases h
  | never => cases hanswers

variable {wait : PollReply → ErrorCode → Option (Int × ErrorCode)} {s : Nat}

theorem retryLoop_again (hwait : wait = pollReady (some s) .none) (h : a.again = true)
    (later : List (Attempt α)) (ec : ErrorCode) :
    ∃ ec', retryLoop wait .stream (a :: later) ec = retryLoop wait .stream later ec' := by
  subst hwait
  obtain ⟨e, hr, hblock, hanswers, hpoll⟩ := a.error_of_again h
  have hfinal : finalError .stream e.code = false := by simp [finalError_stream, hblock]
  obtain ⟨result, ec', hrun, hresult⟩ := pollReady_ready hanswers hpoll s e.code
  refine ⟨ec', ?_⟩
  rw [retryLoop]
  simp only [hr, getLastError, hfinal, Bool.false_eq_true, ↓reduceIte, hrun, hresult]

theorem retryLoop_settled (hwait : wait = pollReady (some s) .none) (h : a.again = false)
    (later : List (Attempt α)) (ec : ErrorCode) :
    match a.outcome with
    | some out => ∃ ec', Reported out ec' ∧
        retryLoop wait .stream (a :: later) ec = some (a, ec', later)
    | none => retryLoop wait .stream (a :: later) ec = none := by
  subst hwait
  obtain ⟨reply, poll⟩ := a
  rw [retryLoop]
  unfold Attempt.outcome
  cases reply with
  | ok r => exact ⟨ec.succeed, rfl, rfl⟩
  | error e =>
    by_cases hblock : e.code = wouldBlock
    · have hfinal : finalError .stream wouldBlock = false := by decide
      simp only [getLastError, hblock, hfinal, Bool.false_eq_true, ↓reduceIte]
      cases poll with
      | ready => simp [Attempt.again, PollReply.failure, PollReply.answers, hblock] at h
      | timedOut => simp [Attempt.again, PollReply.failure, PollReply.answers, hblock] at h
      | fails e' => exact ⟨e'.code, rfl, rfl⟩
      | never => rfl
    · have hfinal : finalError .stream e.code = true := by simp [finalError_stream, hblock]
      simp only [getLastError, hfinal, hblock, ↓reduceIte]
      exact ⟨e.code, rfl, rfl⟩

theorem retryLoop_stream (hwait : wait = pollReady (some s) .none) (attempts : List (Attempt α))
    (ec : ErrorCode) :
    match attempts.dropWhile Attempt.again with
    | [] => retryLoop wait .stream attempts ec = none
    | a :: later =>
      match a.outcome with
      | some out => ∃ ec', Reported out ec' ∧
          retryLoop wait .stream attempts ec = some (a, ec', later)
      | none => retryLoop wait .stream attempts ec = none := by
  induction attempts generalizing ec with
  | nil => rfl
  | cons a later ih =>
    cases hagain : a.again with
    | true =>
      obtain ⟨ec', hstep⟩ := retryLoop_again hwait hagain later ec
      rw [List.dropWhile_cons_of_pos hagain, hstep]
      exact ih ec'
    | false =>
      rw [List.dropWhile_cons_of_neg (by simp [hagain])]
      exact retryLoop_settled hwait hagain later ec

end Retry

theorem arrivals_dropWhile (attempts : List (Attempt Arrival)) :
    arrivals (attempts.dropWhile Attempt.again) = arrivals attempts := by
  induction attempts with
  | nil => rfl
  | cons a later ih =>
    cases hagain : a.again with
    | true => rw [List.dropWhile_cons_of_pos hagain, ih, arrivals, if_pos hagain]
    | false => rw [List.dropWhile_cons_of_neg (by simp [hagain])]

theorem arrivals_rest {a : Attempt Arrival} {seg : Segment} (h : a.reply = .ok (.data seg))
    (size : Nat) (later : List (Attempt Arrival)) :
    arrivals (a.rest size ++ later) =
      (arrivals later).map fun r => (seg.rest size ++ r.1, r.2) := by
  unfold Attempt.rest Segment.rest
  simp only [h]
  split
  · simp [arrivals, Attempt.again, Attempt.outcome]
  · simp

theorem syncRecv1_first {s size : Nat} (hsize : size ≠ 0) (attempts : List (Attempt Arrival))
    (ec : ErrorCode) :
    match attempts.dropWhile Attempt.again with
    | [] => syncRecv1 (some s) .stream size attempts ec = none
    | a :: later =>
      match a.outcome with
      | some (.ok (.data seg)) => ∃ ec', ec'.isSet = false ∧
          syncRecv1 (some s) .stream size attempts ec =
            some (seg.bytes.take size, ec', a.rest size ++ later)
      | some (.ok .shutdown) =>
        syncRecv1 (some s) .stream size attempts ec = some ([], .eof, later)
      | some (.error e) => syncRecv1 (some s) .stream size attempts ec = some ([], e.code, later)
      | none => syncRecv1 (some s) .stream size attempts ec = none := by
  have hloop := retryLoop_stream (show pollRead (some s) .none = _ from rfl) attempts ec
  unfold syncRecv1
  simp only [reduceCtorEq, ↓reduceIte, hsize, false_and]
  cases hdrop : attempts.dropWhile Attempt.again with
  | nil =>
    rw [hdrop] at hloop
    simp only [hloop]
  | cons a later =>
    rw [hdrop] at hloop
    dsimp only at hloop ⊢
    cases hout : a.outcome with
    | none =>
      rw [hout] at hloop
      simp only [hloop]
    | some out =>
      rw [hout] at hloop
      obtain ⟨ec', hreported, hrun⟩ := hloop
      rw [hrun]
      cases out with
      | error e =>
        obtain ⟨e', hr⟩ := Attempt.reply_of_outcome_error hout
        obtain rfl : ec' = e.code := hreported
        simp only [hr, recv1]
      | ok arrival =>
        have hr := Attempt.reply_of_outcome hout
        cases arrival with
        | shutdown =>
          simp only [hr, recv1]
          rfl
        | data seg =>
          have hsome : (seg.bytes.take size).isEmpty = false := by
            simp [List.isEmpty_eq_false_iff, List.take_eq_nil_iff, hsize, seg.nonempty]
          refine ⟨ec', hreported, ?_⟩
          simp only [hr, recv1, hsome, Bool.and_false, Bool.false_eq_true, ↓reduceIte]

/-- What one read makes of what arrives: it takes from the next segment, or reports the end. -/
def Receives (size : Nat) (ending : Failure) (segs : List Segment) (bytes : Bytes)
    (ec : ErrorCode) (rest : List (Attempt Arrival)) : Prop :=
  match segs with
  | seg :: later => bytes = seg.bytes.take size ∧ ec.isSet = false ∧
      arrivals rest = some (seg.rest size ++ later, ending)
  | [] => bytes = [] ∧ ec = ending.code

theorem again_of_dropWhile {α : Type} {attempts later : List (Attempt α)} {a : Attempt α}
    (h : attempts.dropWhile Attempt.again = a :: later) : a.again = false := by
  have hhead := List.head?_dropWhile_not Attempt.again attempts
  rwa [h] at hhead

theorem syncRecv1_arrivals {s size : Nat} (hsize : size ≠ 0)
    {attempts : List (Attempt Arrival)} {segs : List Segment} {ending : Failure}
    (h : arrivals attempts = some (segs, ending)) (ec : ErrorCode) :
    ∃ bytes ec' rest,
      syncRecv1 (some s) .stream size attempts ec = some (bytes, ec', rest) ∧
        Receives size ending segs bytes ec' rest := by
  have hfirst := syncRecv1_first (s := s) hsize attempts ec
  rw [← arrivals_dropWhile] at h
  cases hdrop : attempts.dropWhile Attempt.again with
  | nil =>
    rw [hdrop] at h
    cases h
  | cons a later =>
    have hno := again_of_dropWhile hdrop
    rw [hdrop] at h hfirst
    dsimp only at hfirst
    rw [arrivals, hno] at h
    cases hout : a.outcome with
    | none => simp [hout] at h
    | some out =>
      rw [hout] at hfirst
      cases out with
      | error e =>
        simp only [hout, Bool.false_eq_true, ↓reduceIte, Option.some.injEq, Prod.mk.injEq] at h
        obtain ⟨rfl, rfl⟩ := h
        exact ⟨[], e.code, later, hfirst, rfl, rfl⟩
      | ok arrival =>
        cases arrival with
        | shutdown =>
          simp only [hout, Bool.false_eq_true, ↓reduceIte, Option.some.injEq, Prod.mk.injEq] at h
          obtain ⟨rfl, rfl⟩ := h
          exact ⟨[], .eof, later, hfirst, rfl, rfl⟩
        | data seg =>
          simp only [hout, Bool.false_eq_true, ↓reduceIte] at h
          obtain ⟨⟨segs', ending'⟩, hlater, heq⟩ := Option.map_eq_some_iff.1 h
          obtain ⟨rfl, rfl⟩ := Prod.mk.inj heq
          obtain ⟨ec', hclear, hrun⟩ := hfirst
          refine ⟨_, ec', _, hrun, rfl, hclear, ?_⟩
          rw [arrivals_rest (Attempt.reply_of_outcome hout), hlater]
          rfl

theorem syncRecv1_endless {s size : Nat} (hsize : size ≠ 0) {attempts : List (Attempt Arrival)}
    (h : arrivals attempts = none) (ec : ErrorCode) :
    syncRecv1 (some s) .stream size attempts ec = none ∨
      ∃ bytes ec' rest, syncRecv1 (some s) .stream size attempts ec = some (bytes, ec', rest) ∧
        ec'.isSet = false ∧ arrivals rest = none := by
  have hfirst := syncRecv1_first (s := s) hsize attempts ec
  rw [← arrivals_dropWhile] at h
  cases hdrop : attempts.dropWhile Attempt.again with
  | nil =>
    rw [hdrop] at hfirst
    exact .inl hfirst
  | cons a later =>
    have hno := again_of_dropWhile hdrop
    rw [hdrop] at h hfirst
    dsimp only at hfirst
    rw [arrivals, hno] at h
    cases hout : a.outcome with
    | none =>
      rw [hout] at hfirst
      exact .inl hfirst
    | some out =>
      rw [hout] at hfirst
      cases out with
      | error e => simp [hout] at h
      | ok arrival =>
        cases arrival with
        | shutdown => simp [hout] at h
        | data seg =>
          simp only [hout, Bool.false_eq_true, ↓reduceIte, Option.map_eq_none_iff] at h
          obtain ⟨ec', hclear, hrun⟩ := hfirst
          refine .inr ⟨_, ec', _, hrun, hclear, ?_⟩
          rw [arrivals_rest (Attempt.reply_of_outcome hout), h]
          rfl

theorem syncSend1_written {s size : Nat} (hsize : size ≠ 0) (attempts : List (Attempt Taken))
    (ec : ErrorCode) :
    match written attempts with
    | none => syncSend1 (some s) .stream size attempts ec = none
    | some (.accepts m _) => ∃ ec' rest, ec'.isSet = false ∧
        syncSend1 (some s) .stream size attempts ec = some (min m size, ec', rest)
    | some (.fails e) => ∃ rest,
        syncSend1 (some s) .stream size attempts ec = some (0, e.code, rest) := by
  have hloop := retryLoop_stream (show pollWrite (some s) .none = _ from rfl) attempts ec
  unfold syncSend1 written
  simp only [reduceCtorEq, ↓reduceIte, hsize, false_and]
  cases hdrop : attempts.dropWhile Attempt.again with
  | nil =>
    rw [hdrop] at hloop
    simp only [hloop]
  | cons a later =>
    rw [hdrop] at hloop
    dsimp only at hloop ⊢
    cases hout : a.outcome with
    | none =>
      rw [hout] at hloop
      simp only [hloop]
    | some out =>
      rw [hout] at hloop
      obtain ⟨ec', hreported, hrun⟩ := hloop
      rw [hrun]
      cases out with
      | error e =>
        obtain ⟨e', hr⟩ := Attempt.reply_of_outcome_error hout
        obtain rfl : ec' = e.code := hreported
        exact ⟨later, by simp only [hr, send1]⟩
      | ok n =>
        have hr := Attempt.reply_of_outcome hout
        exact ⟨ec', later, hreported, by simp only [hr, send1]⟩

def Reports (failure : Option Failure) (ec : ErrorCode) : Prop :=
  match failure with
  | some e => ec = e.code
  | none => ec.isSet = false

theorem Reports.isSet_eq {failure : Option Failure} {ec : ErrorCode} (h : Reports failure ec) :
    ec.isSet = failure.isSome := by
  cases failure with
  | some e => exact (congrArg ErrorCode.isSet h).trans e.isSet
  | none => exact h

theorem reports_systemFailure (value : Int32) :
    Reports (systemFailure value) ⟨value, .asioSystem⟩ := by
  unfold systemFailure
  split
  · rfl
  · rename_i h
    simpa [Reports, ErrorCode.isSet] using h

theorem pollRead_stream (s : Nat) (reply : PollReply) :
    if reply.answers then ∃ result ec, pollRead (some s) .stream reply .cleared =
        some (result, ec) ∧ Reports reply.failure ec
      else pollRead (some s) .stream reply .cleared = none := by
  cases reply with
  | ready => exact ⟨1, _, rfl, rfl⟩
  | timedOut => exact ⟨0, _, rfl, rfl⟩
  | fails e => exact ⟨-1, _, rfl, rfl⟩
  | never => rfl

theorem pollConnect_some (s : Nat) (reply : PollReply) (ec : ErrorCode) :
    if reply.answers then
        match reply.failure with
        | some e => pollConnect (some s) reply ec = some (-1, e.code)
        | none => ∃ result ec', pollConnect (some s) reply ec = some (result, ec') ∧ ¬ result < 0
      else pollConnect (some s) reply ec = none := by
  cases reply with
  | ready => exact ⟨1, _, rfl, by decide⟩
  | timedOut => exact ⟨0, _, rfl, by decide⟩
  | fails e => rfl
  | never => rfl

theorem syncConnect_inProgress (s : Nat) {replies : ConnectReplies} {e : Errno}
    (hconnect : replies.connect = .error e) (hprogress : e.code = inProgress) (ec : ErrorCode) :
    if replies.poll.answers then ∃ ec', syncConnect (some s) replies ec = some ec' ∧
        Reports replies.failure ec'
      else syncConnect (some s) replies ec = none := by
  have hpoll := pollConnect_some s replies.poll inProgress
  have hwaited : inProgress ≠ tryAgain := by decide
  unfold syncConnect connectOp ConnectReplies.failure
  cases hanswers : replies.poll.answers with
  | false =>
    rw [hanswers, if_neg Bool.false_ne_true] at hpoll
    simp [hconnect, hprogress, hwaited, hpoll]
  | true =>
    rw [hanswers, if_pos rfl] at hpoll
    cases hf : replies.poll.failure with
    | some e' =>
      rw [hf] at hpoll
      simp [hconnect, hprogress, hwaited, hpoll, Reports]
    | none =>
      rw [hf] at hpoll
      obtain ⟨result, ec', hrun, hresult⟩ := hpoll
      cases hsock : replies.sockError with
      | error e' =>
        simp [hconnect, hprogress, hwaited, hrun, hresult, getsockopt, getLastError, Reports]
      | ok value =>
        have hvalue := reports_systemFailure value
        simpa [hconnect, hprogress, hwaited, hrun, hresult, getsockopt, hsock, getLastError]
          using hvalue

theorem syncConnect_some (s : Nat) (replies : ConnectReplies) (ec : ErrorCode) :
    if replies.answers then ∃ ec', syncConnect (some s) replies ec = some ec' ∧
        Reports replies.failure ec'
      else syncConnect (some s) replies ec = none := by
  cases hconnect : replies.connect with
  | ok done =>
    have hdone : ec.succeed ≠ inProgress ∧ ec.succeed ≠ wouldBlock := by
      constructor
      · intro h
        cases congrArg ErrorCode.value h
      · intro h
        cases congrArg ErrorCode.value h
    simp [ConnectReplies.answers, ConnectReplies.failure, syncConnect, connectOp, hconnect,
      getLastError, hdone, Reports]
  | error e =>
    by_cases hprogress : e.code = inProgress
    · have hwaits : replies.answers = replies.poll.answers := by
        simp [ConnectReplies.answers, hconnect, hprogress]
      rw [hwaits]
      exact syncConnect_inProgress s hconnect hprogress ec
    · have hanswers : replies.answers = true := by
        simp [ConnectReplies.answers, hconnect, hprogress]
      rw [hanswers, if_pos rfl]
      unfold ConnectReplies.failure syncConnect connectOp
      by_cases hagain : e.code = tryAgain
      · have hfull : noBufferSpace.code ≠ inProgress ∧ noBufferSpace.code ≠ wouldBlock := by decide
        simp [hconnect, hagain, hfull, Reports]
      · have hblock : e.code ≠ wouldBlock := hagain
        simp [hconnect, hagain, hprogress, hblock, Reports]

theorem reports_closeOp (s : Nat) (state : StateType) (k : Kernel) :
    Reports k.closing (closeOp (some s) state k.firstClose k.secondClose .cleared).2 := by
  unfold Kernel.closing closeOp
  cases k.firstClose with
  | ok done => rfl
  | error e =>
    by_cases hblock : e.code = wouldBlock
    · cases k.secondClose with
      | ok done => simp [hblock, getLastError, Reports]
      | error e' => simp [hblock, getLastError, Reports]
    · have hagain : e.code ≠ tryAgain := hblock
      cases k.secondClose with
      | ok done => simp [hblock, hagain, getLastError, Reports]
      | error e' => simp [hblock, hagain, getLastError, Reports]

theorem resolveOp_resolving (k : Kernel) :
    match k.resolving with
    | .ok endpoints => ∃ ec, resolveOp k.addrinfo = (endpoints, ec) ∧ ec.isSet = false
    | .error e => resolveOp k.addrinfo = ([], e.code) := by
  unfold Kernel.resolving resolveOp
  cases hset : (translateAddrinfoError k.addrinfo.error k.addrinfo.errno).isSet with
  | true => simp [hset]
  | false =>
    simp only [hset, Bool.false_eq_true, ↓reduceDIte, ↓reduceIte]
    exact ⟨_, rfl, hset⟩

end AsioClient
