import AsioClient.CppRuntime
import AsioClient.SplitPieces

/-!
`RequestHeaderBuilder`: the request text for a URL and the URL's slash-separated segments.
`hostName` and `requestTarget` below say which parts of the URL end up in the request.
-/

set_option autoImplicit false

namespace AsioClient
open FirstOccurrence SplitPieces

def httpStandardAttribute : Bytes := text "HTTP/1.1" ++ crlf
def requestDefaultIndexfile : Bytes := text "/index.html"
def requestKeywordConnection : Bytes := text "Connection:"
def requestKeywordHost : Bytes := text "Host:"
def requestConnectionAttributeClose : Bytes := text "close"
def requestKeywordGet : Bytes := text "GET"

inductive RequestType where
  | GET | POST | PUT | PATCH | DELETE | HEAD | OPTIONS | TRACE | CONNECT
  deriving DecidableEq, Repr

/-- Every case of the source returns the keyword of `GET`. -/
def getStringValueBasedOnRequestType : RequestType → Bytes
  | .GET => requestKeywordGet
  | .POST => requestKeywordGet
  | .PUT => requestKeywordGet
  | .PATCH => requestKeywordGet
  | .DELETE => requestKeywordGet
  | _ => requestKeywordGet

/-- The two accumulators of the loop in `ParseUrl`. -/
structure SegmentState where
  returnValues : List Bytes
  currentStringValue : Bytes

def SegmentState.step (st : SegmentState) (chara : UInt8) : SegmentState :=
  if chara = slash then
    if st.currentStringValue ≠ [] then
      ⟨st.returnValues ++ [st.currentStringValue], []⟩
    else ⟨st.returnValues, []⟩
  else ⟨st.returnValues, st.currentStringValue ++ [chara]⟩

def SegmentState.flush (st : SegmentState) : List Bytes :=
  if st.currentStringValue ≠ [] then st.returnValues ++ [st.currentStringValue]
  else st.returnValues

def collectSegments (searchurl : Bytes) : List Bytes :=
  (searchurl.foldl SegmentState.step ⟨[], []⟩).flush

def searchmask : Bytes := text "://"

theorem searchmask_eq : searchmask = [colon, slash, slash] := rfl

theorem length_searchmask : searchmask.length = 3 := rfl

def skipScheme (url : Bytes) : Except Exn Bytes :=
  let urlStart := toInt (find url searchmask)
  if toSizeT urlStart ≠ npos then
    substr url (addSizeT (toSizeT urlStart) searchmask.length)
  else .ok url

def parseUrl (url : Bytes) : Except Exn (List Bytes) := do
  let searchurl ← skipScheme url
  let res := toInt (find searchurl [slash])
  if -1 < res then pure (collectSegments searchurl) else pure []

def getSubrequest (baseAddress requestUrl : Bytes) : Except Exn Bytes :=
  if baseAddress = requestUrl then .ok []
  else
    let pos := toInt (find requestUrl baseAddress)
    if -1 < pos then
      substr requestUrl (addSizeT (toSizeT pos) baseAddress.length)
    else .ok []

def createHeaderRequest (urlRequest : Bytes) (requestType : RequestType) :
    Except Exn Bytes := do
  let parsedUrl ← parseUrl urlRequest
  let host := parsedUrl.headD urlRequest
  let subReq ← getSubrequest host urlRequest
  let subvalueRequest := if subReq.isEmpty then requestDefaultIndexfile else subReq
  let requTypeString := getStringValueBasedOnRequestType requestType
  pure (requTypeString ++ text " " ++ subvalueRequest ++ text " " ++ httpStandardAttribute
    ++ requestKeywordHost ++ text " " ++ host ++ crlf
    ++ requestKeywordConnection ++ text " " ++ requestConnectionAttributeClose
    ++ crlf ++ crlf)

theorem SegmentState.flush_foldl (s : Bytes) (st : SegmentState)
    (h : slash ∉ st.currentStringValue) :
    (s.foldl SegmentState.step st).flush =
      st.returnValues ++ pieces slash (st.currentStringValue ++ s) := by
  induction s generalizing st with
  | nil =>
    by_cases hc : st.currentStringValue = []
    · simp [SegmentState.flush, hc]
    · simp [SegmentState.flush, hc, pieces_of_not_mem hc h]
  | cons c s ih =>
    rw [List.foldl_cons]
    by_cases hc : c = slash
    · subst c
      by_cases hne : st.currentStringValue = []
      · simp [SegmentState.step, hne, ih]
      · rw [pieces_append_sep, pieces_of_not_mem hne h]
        simp [SegmentState.step, hne, ih]
    · have hclean : slash ∉ st.currentStringValue ++ [c] := by simp [h, Ne.symm hc]
      simp only [SegmentState.step, if_neg hc]
      rw [ih _ hclean]
      simp

theorem collectSegments_eq (s : Bytes) : collectSegments s = pieces slash s := by
  have h := SegmentState.flush_foldl s ⟨[], []⟩ (by simp)
  simpa [collectSegments] using h

theorem headD_pieces_part {s whole : Bytes} (h : s <:+: whole) :
    (pieces slash s).headD whole <:+: whole := by
  cases hp : pieces slash s with
  | nil => exact List.infix_rfl
  | cons x ps =>
    obtain ⟨k, rest, hl⟩ := exists_leading_of_pieces hp
    have hx : x <:+: s := ⟨List.replicate k slash, rest, hl.split.symm⟩
    exact hx.trans h

theorem skipScheme_suffix {url searchurl : Bytes} (h : skipScheme url = .ok searchurl) :
    searchurl <:+ url := by
  unfold skipScheme at h
  dsimp only at h
  split at h
  · exact substr_suffix h
  · cases h
    exact List.suffix_rfl

theorem parseUrl_headD {url : Bytes} {parsedUrl : List Bytes}
    (h : parseUrl url = .ok parsedUrl) : parsedUrl.headD url <:+: url := by
  unfold parseUrl at h
  cases hs : skipScheme url with
  | error e => simp [hs, bind, Except.bind] at h
  | ok searchurl =>
    simp only [hs, bind, Except.bind] at h
    split at h
    · cases h
      rw [collectSegments_eq]
      exact headD_pieces_part (skipScheme_suffix hs).isInfix
    · cases h
      exact List.infix_rfl

theorem getSubrequest_suffix {base url subReq : Bytes} (h : getSubrequest base url = .ok subReq) :
    subReq <:+ url := by
  unfold getSubrequest at h
  dsimp only at h
  split at h
  · cases h
    exact List.nil_suffix
  · split at h
    · exact substr_suffix h
    · cases h
      exact List.nil_suffix

theorem find_slash {a b : Bytes} (h : slash ∉ a) :
    find (a ++ slash :: b) [slash] = a.length := by
  have hcut : cut [slash] (a ++ [slash] ++ b) = some (a, b) := by
    refine (cut_append_iff (by simp)).2 ?_
    simpa [List.singleton_infix_iff] using h
  rw [List.append_cons]
  exact find_of_cut hcut

theorem parseUrl_of_skip_slash {url a b : Bytes} (hskip : skipScheme url = .ok (a ++ slash :: b))
    (hne : a ≠ []) (ha : slash ∉ a) :
    parseUrl url = .ok (if a.length % 2 ^ 32 < 2 ^ 31 then a :: pieces slash b else []) := by
  have hpieces : pieces slash (a ++ slash :: b) = a :: pieces slash b := by
    rw [pieces_append_sep, pieces_of_not_mem hne ha]
    rfl
  unfold parseUrl
  simp only [hskip, bind, Except.bind, find_slash ha, neg_one_lt_toInt_iff, collectSegments_eq,
    hpieces]
  split <;> rfl

theorem parseUrl_of_skip_no_slash {url v : Bytes} (hskip : skipScheme url = .ok v)
    (hv : slash ∉ v) : parseUrl url = .ok [] := by
  have hcut : cut [slash] v = none :=
    cut_eq_none_iff.2 fun hin => hv ((List.singleton_infix_iff _ _).1 hin)
  unfold parseUrl
  simp only [hskip, bind, Except.bind, toInt_find_of_absent hcut]
  rfl

/-- The part of the URL `ParseUrl` looks at: what follows the first `://`. -/
def authorityAndPath (url : Bytes) : Bytes :=
  match cut searchmask url with
  | some (_, rest) => rest
  | none => url

def segments (url : Bytes) : List Bytes :=
  if slash ∈ authorityAndPath url then pieces slash (authorityAndPath url) else []

def hostName (url : Bytes) : Bytes := (segments url).headD url

def subrequest (base url : Bytes) : Bytes :=
  if base = url then [] else
    match cut base url with
    | some (_, rest) => rest
    | none => []

def targetOf (subReq : Bytes) : Bytes :=
  if subReq.isEmpty then requestDefaultIndexfile else subReq

def requestTarget (url : Bytes) : Bytes := targetOf (subrequest (hostName url) url)

def requestText (target host : Bytes) : Bytes :=
  text "GET " ++ target ++ text " HTTP/1.1" ++ crlf ++ text "Host: " ++ host ++ crlf ++
    text "Connection: close" ++ crlf ++ crlf

theorem requestText_ne_nil (target host : Bytes) : requestText target host ≠ [] := by
  simp [requestText, text]

theorem neg_one_lt_find_slash {s : Bytes} (h : s.length < 2 ^ 31) :
    -1 < toInt (find s [slash]) ↔ slash ∈ s := by
  cases hc : cut [slash] s with
  | none =>
    have habs := cut_eq_none_iff.1 hc
    have hmem : slash ∉ s := fun hm => habs ((List.singleton_infix_iff _ _).2 hm)
    rw [toInt_find_of_absent hc]
    simp [hmem]
  | some r =>
    obtain ⟨p, t⟩ := r
    have hmem : slash ∈ s := by simp [(cut_eq_some_iff.1 hc).1]
    exact iff_of_true (toInt_find hc (length_before_lt h hc)).1 hmem

theorem length_authorityAndPath (url : Bytes) :
    (authorityAndPath url).length ≤ url.length := by
  unfold authorityAndPath
  split
  · rename_i h
    have := congrArg List.length (cut_eq_some_iff.1 h).1
    simp only [List.length_append] at this
    omega
  · exact Nat.le_refl _

theorem skipScheme_of_absent {url : Bytes} (hc : cut searchmask url = none) :
    skipScheme url = .ok url := by
  simp [skipScheme, toInt_find_of_absent hc, toSizeT_neg_one]

theorem skipScheme_of_cut {url p t : Bytes} (hlen : url.length ≤ maxSize)
    (hc : cut searchmask url = some (p, t)) (hp : p.length < 2 ^ 31) :
    skipScheme url = .ok t := by
  have hne : toSizeT (toInt (find url searchmask)) ≠ npos := by
    rw [(toInt_find hc hp).2, npos]
    omega
  simp only [skipScheme, if_pos hne, substr_after hlen hc hp]

theorem skipScheme_eq {url : Bytes} (h : url.length < 2 ^ 31) :
    skipScheme url = .ok (authorityAndPath url) := by
  unfold authorityAndPath
  cases hc : cut searchmask url with
  | none => exact skipScheme_of_absent hc
  | some r => exact skipScheme_of_cut (le_maxSize_of_lt h) hc (length_before_lt h hc)

theorem parseUrl_eq {url : Bytes} (h : url.length < 2 ^ 31) :
    parseUrl url = .ok (segments url) := by
  have hlen := Nat.lt_of_le_of_lt (length_authorityAndPath url) h
  unfold parseUrl segments
  simp only [skipScheme_eq h, bind, Except.bind, neg_one_lt_find_slash hlen,
    collectSegments_eq]
  split <;> rfl

theorem getSubrequest_self (url : Bytes) : getSubrequest url url = .ok [] := if_pos rfl

theorem getSubrequest_of_cut {base url p t : Bytes} (hne : base ≠ url)
    (hlen : url.length ≤ maxSize) (hc : cut base url = some (p, t)) (hp : p.length < 2 ^ 31) :
    getSubrequest base url = .ok t := by
  simp only [getSubrequest, if_neg hne, if_pos (toInt_find hc hp).1, substr_after hlen hc hp]

theorem getSubrequest_eq {base url : Bytes} (h : url.length < 2 ^ 31) :
    getSubrequest base url = .ok (subrequest base url) := by
  unfold subrequest
  by_cases heq : base = url
  · rw [if_pos heq, heq, getSubrequest_self]
  · rw [if_neg heq]
    cases hc : cut base url with
    | none => simp [getSubrequest, heq, toInt_find_of_absent hc]
    | some r => exact getSubrequest_of_cut heq (le_maxSize_of_lt h) hc (length_before_lt h hc)

theorem createHeaderRequest_run (url : Bytes) (type : RequestType) :
    createHeaderRequest url type = (do
      let parsedUrl ← parseUrl url
      let subReq ← getSubrequest (parsedUrl.headD url) url
      pure (requestText (targetOf subReq) (parsedUrl.headD url))) := by
  have htype : getStringValueBasedOnRequestType type = requestKeywordGet := by
    cases type <;> rfl
  have hget : text "GET " = requestKeywordGet ++ text " " := rfl
  have hversion : text " HTTP/1.1" = text " " ++ text "HTTP/1.1" := rfl
  have hhost : text "Host: " = requestKeywordHost ++ text " " := rfl
  have hclose : text "Connection: close" =
      requestKeywordConnection ++ text " " ++ requestConnectionAttributeClose := rfl
  simp only [createHeaderRequest, requestText, targetOf, htype, hget, hversion, hhost, hclose,
    httpStandardAttribute, List.append_assoc]

theorem createHeaderRequest_of_parts {url subReq : Bytes} {parsedUrl : List Bytes}
    (hp : parseUrl url = .ok parsedUrl)
    (hs : getSubrequest (parsedUrl.headD url) url = .ok subReq) (type : RequestType) :
    createHeaderRequest url type =
      .ok (requestText (targetOf subReq) (parsedUrl.headD url)) := by
  rw [createHeaderRequest_run, hp]
  simp only [bind, Except.bind, hs]
  rfl

/-- Without segments the whole URL is the host. -/
theorem createHeaderRequest_of_no_segments {url : Bytes} (hp : parseUrl url = .ok [])
    (type : RequestType) :
    createHeaderRequest url type = .ok (requestText (text "/index.html") url) :=
  createHeaderRequest_of_parts hp (getSubrequest_self url) type

theorem createHeaderRequest_ok {url header : Bytes} {type : RequestType}
    (h : createHeaderRequest url type = .ok header) :
    ∃ parsedUrl subReq, parseUrl url = .ok parsedUrl ∧
      getSubrequest (parsedUrl.headD url) url = .ok subReq ∧
      header = requestText (targetOf subReq) (parsedUrl.headD url) := by
  rw [createHeaderRequest_run] at h
  cases hp : parseUrl url with
  | error e =>
    rw [hp] at h
    cases h
  | ok parsedUrl =>
    rw [hp] at h
    simp only [bind, Except.bind] at h
    cases hs : getSubrequest (parsedUrl.headD url) url with
    | error e =>
      rw [hs] at h
      cases h
    | ok subReq =>
      rw [hs] at h
      exact ⟨parsedUrl, subReq, rfl, hs, (Except.ok.inj h).symm⟩

theorem createHeaderRequest_eq {url : Bytes} (h : url.length < 2 ^ 31) (type : RequestType) :
    createHeaderRequest url type = .ok (requestText (requestTarget url) (hostName url)) :=
  createHeaderRequest_of_parts (parseUrl_eq h) (getSubrequest_eq h) type

example : createHeaderRequest (text "a.org/b") .GET =
    .ok (text "GET /b HTTP/1.1\r\nHost: a.org\r\nConnection: close\r\n\r\n") := by
  decide +kernel

end AsioClient
