import AsioClient.RequestHeaderBuilder

/-!
Reading a request text back: its CRLF-terminated lines, and the method, target, version and
host they carry. The builder's text has exactly the expected lines unless the target or the
host brings line ends of its own.
-/

set_option autoImplicit false

namespace AsioClient
open FirstOccurrence SplitPieces

structure Request where
  method : Bytes
  target : Bytes
  version : Bytes
  host : Bytes
  deriving DecidableEq, Repr

def crlfLines (m : Bytes) : List Bytes := splitPair cr lf m

def readRequest (m : Bytes) : Option Request :=
  match crlfLines m with
  | [requestLine, hostLine, connectionLine, [], []] =>
    match requestLine.splitOn space, hostLine.dropPrefix? (text "Host: ") with
    | [method, target, version], some host =>
      if connectionLine = text "Connection: close" then some ⟨method, target, version, host⟩
      else none
    | _, _ => none
  | _ => none

/-- One request and nothing else: the blank line stands at the end and only there, before it
come a request line with two spaces, the host line and the connection line. -/
structure WellFormedRequest (m : Bytes) : Prop where
  ends : ∃ head, m = head ++ (crlf ++ crlf)
  once : ∀ p t, m = p ++ (crlf ++ crlf) ++ t → t = []
  lines : ∃ requestLine host, (crlfLines m).dropLast.filter (· ≠ []) =
    [requestLine, text "Host: " ++ host, text "Connection: close"] ∧
    requestLine.count space = 2

def requestLine (target : Bytes) : Bytes := text "GET " ++ target ++ text " HTTP/1.1"

def hostLine (host : Bytes) : Bytes := text "Host: " ++ host

theorem requestLine_ne_nil (target : Bytes) : requestLine target ≠ [] := by
  simp [requestLine, text]

theorem hostLine_ne_nil (host : Bytes) : hostLine host ≠ [] := by
  simp [hostLine, text]

theorem cr_ne_lf : cr ≠ lf := by decide

theorem crlfLines_append (s t : Bytes) :
    crlfLines (s ++ (crlf ++ t)) = crlfLines s ++ crlfLines t :=
  splitPair_append_sep cr_ne_lf s t

theorem crlfLines_requestText (target host : Bytes) :
    crlfLines (requestText target host) =
      crlfLines (requestLine target) ++ crlfLines (hostLine host) ++
        [text "Connection: close", [], []] := by
  have htail : crlfLines (text "Connection: close" ++ (crlf ++ crlf)) =
      [text "Connection: close", [], []] := by decide
  have hshape : requestText target host = requestLine target ++ (crlf ++ (hostLine host ++
      (crlf ++ (text "Connection: close" ++ (crlf ++ crlf))))) := by
    simp [requestText, requestLine, hostLine]
  rw [hshape, crlfLines_append, crlfLines_append, htail, List.append_assoc]

theorem crlf_infix_requestLine (target : Bytes) :
    crlf <:+: requestLine target ↔ crlf <:+: target := by
  have hend : lf ∉ text " HTTP/1.1" := by decide
  have hstart : cr ∉ text "GET " := by decide
  rw [requestLine, show crlf = [cr] ++ [lf] from rfl, concat_infix_append_iff hend]
  exact cons_infix_append_iff hstart

theorem crlf_infix_hostLine (host : Bytes) : crlf <:+: hostLine host ↔ crlf <:+: host := by
  have hstart : cr ∉ text "Host: " := by decide
  exact cons_infix_append_iff hstart

theorem crlfLines_of_clean {target host : Bytes} (ht : ¬ crlf <:+: target)
    (hh : ¬ crlf <:+: host) :
    crlfLines (requestText target host) =
      [requestLine target, hostLine host, text "Connection: close", [], []] := by
  have h₁ : crlfLines (requestLine target) = [requestLine target] :=
    splitPair_of_unbroken (fun h => ht ((crlf_infix_requestLine target).1 h))
  have h₂ : crlfLines (hostLine host) = [hostLine host] :=
    splitPair_of_unbroken (fun h => hh ((crlf_infix_hostLine host).1 h))
  rw [crlfLines_requestText, h₁, h₂]
  rfl

theorem splitOn_requestLine {target : Bytes} (h : space ∉ target) :
    (requestLine target).splitOn space = [text "GET", target, text "HTTP/1.1"] := by
  have hshape : requestLine target =
      text "GET" ++ space :: (target ++ space :: text "HTTP/1.1") := by
    simp only [requestLine, List.append_assoc]
    rfl
  have hget : space ∉ text "GET" := by decide
  have hversion : space ∉ text "HTTP/1.1" := by decide
  rw [hshape, List.splitOn_append_cons_self_of_not_mem hget,
    List.splitOn_append_cons_self_of_not_mem h, List.splitOn_eq_singleton hversion]

theorem count_space_requestLine (target : Bytes) :
    (requestLine target).count space = 2 + target.count space := by
  have hget : (text "GET ").count space = 1 := by decide
  have hversion : (text " HTTP/1.1").count space = 1 := by decide
  simp only [requestLine, List.count_append, hget, hversion]
  omega

/-- The builder's text reads back as the target and the host it was given. -/
theorem readRequest_requestText {target host : Bytes} (ht : ¬ crlf <:+: target)
    (hs : space ∉ target) (hh : ¬ crlf <:+: host) :
    readRequest (requestText target host) =
      some ⟨text "GET", target, text "HTTP/1.1", host⟩ := by
  have hhost : (hostLine host).dropPrefix? (text "Host: ") = some host :=
    List.dropPrefix?_append_of_beq host BEq.rfl
  unfold readRequest
  rw [crlfLines_of_clean ht hh]
  simp only [splitOn_requestLine hs, hhost, if_true]

def fullLines (m : Bytes) : List Bytes := (crlfLines m).filter (· ≠ [])

theorem fullLines_append (s t : Bytes) :
    fullLines (s ++ (crlf ++ t)) = fullLines s ++ fullLines t := by
  rw [fullLines, crlfLines_append, List.filter_append]
  rfl

theorem length_fullLines_pos {s : Bytes} (h : ∃ c ∈ s, c ≠ cr ∧ c ≠ lf) :
    0 < (fullLines s).length := by
  obtain ⟨l, hl, hne⟩ := exists_line_ne_nil h
  exact List.length_pos_of_mem (List.mem_filter.2 ⟨hl, by simpa using hne⟩)

theorem length_fullLines_requestLine (target : Bytes) :
    0 < (fullLines (requestLine target)).length :=
  length_fullLines_pos ⟨'G'.toUInt8, by simp [requestLine, text], by decide⟩

theorem length_fullLines_hostLine (host : Bytes) : 0 < (fullLines (hostLine host)).length :=
  length_fullLines_pos ⟨'H'.toUInt8, by simp [hostLine, text], by decide⟩

theorem terminated_requestText (target host : Bytes) :
    (crlfLines (requestText target host)).dropLast.filter (· ≠ []) =
      fullLines (requestLine target) ++ fullLines (hostLine host) ++
        [text "Connection: close"] := by
  have hclose : [text "Connection: close", []].filter (· ≠ []) =
      [text "Connection: close"] := by decide
  rw [crlfLines_requestText, List.dropLast_append_of_ne_nil (by simp), List.filter_append,
    List.filter_append]
  exact congrArg _ hclose

theorem WellFormedRequest.length_fullLines {target host : Bytes}
    (h : WellFormedRequest (requestText target host)) :
    (fullLines (requestLine target)).length + (fullLines (hostLine host)).length = 2 := by
  obtain ⟨line, name, hlines, -⟩ := h.lines
  have hlen := congrArg List.length ((terminated_requestText target host).symm.trans hlines)
  simp only [List.length_append, List.length_cons, List.length_nil] at hlen
  omega

theorem WellFormedRequest.target_clean {target host : Bytes}
    (h : WellFormedRequest (requestText target host)) : ¬ crlf <:+: target := by
  intro ⟨p, q, hpq⟩
  have hshape : requestLine target =
      (text "GET " ++ p) ++ (crlf ++ (q ++ text " HTTP/1.1")) := by
    simp [requestLine, ← hpq]
  have hbefore : 0 < (fullLines (text "GET " ++ p)).length :=
    length_fullLines_pos ⟨'G'.toUInt8, by simp [text], by decide⟩
  have hbehind : 0 < (fullLines (q ++ text " HTTP/1.1")).length :=
    length_fullLines_pos ⟨'H'.toUInt8, by simp [text], by decide⟩
  have hhost := length_fullLines_hostLine host
  have htotal := h.length_fullLines
  rw [hshape, fullLines_append, List.length_append] at htotal
  omega

theorem WellFormedRequest.host_clean {target host : Bytes}
    (h : WellFormedRequest (requestText target host)) : ¬ crlf <:+: host := by
  intro ⟨p, q, hpq⟩
  have hshape : hostLine host = (text "Host: " ++ p) ++ (crlf ++ q) := by
    simp [hostLine, ← hpq]
  have hbefore : 0 < (fullLines (text "Host: " ++ p)).length :=
    length_fullLines_pos ⟨'H'.toUInt8, by simp [text], by decide⟩
  have hline := length_fullLines_requestLine target
  have htotal := h.length_fullLines
  rw [hshape, fullLines_append, List.length_append] at htotal
  -- the lines behind the first one are empty, so a blank line ends the head early
  have hnone : fullLines q = [] := List.length_eq_zero_iff.1 (by omega)
  have hempty : ∀ l ∈ splitPair cr lf q, l = [] := by
    intro l hl
    simpa using List.filter_eq_nil_iff.1 hnone l hl
  rcases eq_nil_or_sep_of_lines_empty hempty with rfl | ⟨q', rfl⟩
  · have ht := h.once (text "GET " ++ target ++ text " HTTP/1.1" ++ crlf ++ (text "Host: " ++ p))
      (text "Connection: close" ++ crlf ++ crlf) (by simp [requestText, ← hpq])
    simp [text] at ht
  · have ht := h.once (text "GET " ++ target ++ text " HTTP/1.1" ++ crlf ++ (text "Host: " ++ p))
      (q' ++ crlf ++ text "Connection: close" ++ crlf ++ crlf)
      (by simp [requestText, ← hpq, crlf])
    simp [text] at ht

theorem fullLines_of_unbroken {s : Bytes} (hne : s ≠ []) (h : ¬ crlf <:+: s) :
    fullLines s = [s] := by
  have hlines : crlfLines s = [s] := splitPair_of_unbroken h
  simp [fullLines, hlines, hne]

theorem blank_line_only_at_end {target host p t : Bytes} (ht : ¬ crlf <:+: target)
    (hh : ¬ crlf <:+: host) (heq : requestText target host = p ++ (crlf ++ crlf) ++ t) :
    t = [] := by
  have hsplit : crlfLines p ++ [] :: crlfLines t =
      [requestLine target, hostLine host, text "Connection: close", [], []] := by
    rw [← crlfLines_of_clean ht hh, heq, List.append_assoc, List.append_assoc,
      crlfLines_append]
    rfl
  have hp : crlfLines p ≠ [] := splitPair_ne_nil cr lf p
  have htne : crlfLines t ≠ [] := splitPair_ne_nil cr lf t
  have hhost : [] ≠ hostLine host := (hostLine_ne_nil host).symm
  have hclose : [] ≠ text "Connection: close" := by decide
  -- the empty line of the split can only be the last but one
  have hlast : crlfLines t = [[]] := by
    match hc : crlfLines p, hp with
    | [_], _ => simp [hc, hhost] at hsplit
    | [_, _], _ => simp [hc, hclose] at hsplit
    | [_, _, _], _ => simp [hc] at hsplit; exact hsplit.2.2.2
    | [_, _, _, _], _ => simp [hc, htne] at hsplit
    | _ :: _ :: _ :: _ :: _ :: _, _ => simp [hc] at hsplit
  have hback : [cr, lf].intercalate (crlfLines t) = t := intercalate_splitPair cr lf t
  rw [← hback, hlast]
  rfl

theorem wellFormed_requestText_iff (target host : Bytes) :
    WellFormedRequest (requestText target host) ↔
      ¬ crlf <:+: target ∧ space ∉ target ∧ ¬ crlf <:+: host := by
  constructor
  · intro h
    refine ⟨h.target_clean, ?_, h.host_clean⟩
    obtain ⟨line, name, hlines, hcount⟩ := h.lines
    rw [terminated_requestText, fullLines_of_unbroken (requestLine_ne_nil target)
      (fun hin => h.target_clean ((crlf_infix_requestLine target).1 hin))] at hlines
    have hline : requestLine target = line := (List.cons.inj hlines).1
    rw [← hline, count_space_requestLine] at hcount
    exact List.count_eq_zero.1 (by omega)
  · intro ⟨ht, hs, hh⟩
    refine ⟨⟨requestLine target ++ crlf ++ hostLine host ++ crlf ++ text "Connection: close",
      ?_⟩, fun p t => blank_line_only_at_end ht hh, requestLine target, host, ?_, ?_⟩
    · simp [requestText, requestLine, hostLine]
    · rw [terminated_requestText,
        fullLines_of_unbroken (requestLine_ne_nil target)
          (fun hin => ht ((crlf_infix_requestLine target).1 hin)),
        fullLines_of_unbroken (hostLine_ne_nil host)
          (fun hin => hh ((crlf_infix_hostLine host).1 hin))]
      rfl
    · rw [count_space_requestLine, List.count_eq_zero_of_not_mem hs]

end AsioClient
