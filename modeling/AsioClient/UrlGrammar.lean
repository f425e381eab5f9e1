import AsioClient.UrlRouting

/-!
What `ParseUrl` accepts: the segments of a URL are the pieces between slashes of what follows
its first `://`, and joining segments with slashes is undone by it. While the positions fit an
`int`, every cut on the way from the URL to the request is inside its string.
-/

set_option autoImplicit false

namespace AsioClient
open FirstOccurrence SplitPieces

/-- `s` is what follows the first `://` of the URL, or the whole URL where there is none. -/
def AfterScheme (url s : Bytes) : Prop :=
  (∃ p, url = p ++ searchmask ++ s ∧
    ∀ p' s', url = p' ++ searchmask ++ s' → p.length ≤ p'.length) ∨
  (¬ searchmask <:+: url ∧ s = url)

theorem AfterScheme.authorityAndPath_eq {url s : Bytes} (h : AfterScheme url s) :
    authorityAndPath url = s := by
  rcases h with ⟨p, hsplit, hfirst⟩ | ⟨habs, rfl⟩
  · have hcut := cut_eq_some_iff.2 ⟨hsplit, hfirst⟩
    simp [authorityAndPath, hcut]
  · exact authorityAndPath_of_absent habs

theorem unbordered_searchmask : Unbordered searchmask := by decide

theorem searchmask_ne_nil : searchmask ≠ [] := by decide

theorem afterScheme_append {p s : Bytes} (hp : ¬ searchmask <:+: p) :
    AfterScheme (p ++ searchmask ++ s) s :=
  .inl ⟨p, cut_eq_some_iff.1 (unbordered_searchmask.cut_append searchmask_ne_nil hp)⟩

theorem afterScheme_of_absent {url : Bytes} (h : ¬ searchmask <:+: url) : AfterScheme url url :=
  .inr ⟨h, rfl⟩

theorem parseUrl_of_afterScheme {url s : Bytes} (hlen : url.length < 2 ^ 31)
    (hs : AfterScheme url s) :
    parseUrl url = .ok (if slash ∈ s then pieces slash s else []) := by
  rw [parseUrl_eq hlen, segments, hs.authorityAndPath_eq]

def joinSegments (segs : List Bytes) : Bytes := [slash].intercalate segs

def IsSegment (x : Bytes) : Prop := x ≠ [] ∧ slash ∉ x

theorem searchmask_not_in_join {segs : List Bytes} (hne : segs ≠ [])
    (h : ∀ x ∈ segs, IsSegment x) : ¬ searchmask <:+: joinSegments segs := by
  have hslashes : [slash, slash] <:+: searchmask := by decide
  exact fun hin => not_sep_sep_infix_intercalate hne h (hslashes.trans hin)

theorem slash_mem_join {segs : List Bytes} (h : 2 ≤ segs.length) :
    slash ∈ joinSegments segs := by
  match segs, h with
  | x :: y :: segs, _ => simp [joinSegments, List.intercalate_cons_cons]

theorem parseUrl_join {url : Bytes} {segs : List Bytes} (hlen : url.length < 2 ^ 31)
    (hs : AfterScheme url (joinSegments segs)) (htwo : 2 ≤ segs.length)
    (h : ∀ x ∈ segs, IsSegment x) : parseUrl url = .ok segs := by
  have hne : segs ≠ [] := by
    rintro rfl
    simp at htwo
  rw [parseUrl_of_afterScheme hlen hs, if_pos (slash_mem_join htwo), joinSegments,
    pieces_intercalate hne h]

theorem parseUrl_grammar :
    (∀ url s, url.length < 2 ^ 31 → AfterScheme url s →
      (slash ∉ s → parseUrl url = .ok []) ∧
      (slash ∈ s → ∃ segs, parseUrl url = .ok segs ∧
        ∀ ps, IsPieces slash s ps ↔ ps = segs)) ∧
    (∀ segs, 2 ≤ segs.length → (∀ x ∈ segs, IsSegment x) →
      (joinSegments segs).length < 2 ^ 31 → parseUrl (joinSegments segs) = .ok segs) ∧
    ∀ p segs, 2 ≤ segs.length → (∀ x ∈ segs, IsSegment x) → ¬ searchmask <:+: p →
      (p ++ searchmask ++ joinSegments segs).length < 2 ^ 31 →
      parseUrl (p ++ searchmask ++ joinSegments segs) = .ok segs := by
  refine ⟨?_, ?_, ?_⟩
  · intro url s hlen hs
    have hparse := parseUrl_of_afterScheme hlen hs
    constructor
    · intro hno
      rw [hparse, if_neg hno]
    · intro hslash
      exact ⟨pieces slash s, by rw [hparse, if_pos hslash], fun ps => isPieces_iff⟩
  · intro segs htwo h hlen
    have hne : segs ≠ [] := by
      rintro rfl
      simp at htwo
    exact parseUrl_join hlen (afterScheme_of_absent (searchmask_not_in_join hne h)) htwo h
  · intro p segs htwo h hp hlen
    exact parseUrl_join hlen (afterScheme_append hp) htwo h

theorem parseUrl_grammar_colons :
    (∃ segs, parseUrl (text "a://b://c/") = .ok segs ∧
      ∀ ps, IsPieces slash (text "b://c/") ps ↔ ps = segs) ∧
    parseUrl (joinSegments [text "a:", text ":b"]) = .ok [text "a:", text ":b"] ∧
    parseUrl (text "x:" ++ searchmask ++ joinSegments [text "a:", text ":b"]) =
      .ok [text "a:", text ":b"] := by
  have hsegs : ∀ x ∈ [text "a:", text ":b"], IsSegment x := by
    unfold IsSegment
    decide
  have hafter : AfterScheme (text "a://b://c/") (text "b://c/") :=
    afterScheme_append (p := text "a") (by decide)
  exact ⟨(parseUrl_grammar.1 _ _ (by decide) hafter).2 (by decide),
    parseUrl_grammar.2.1 _ (by decide) hsegs (by decide),
    parseUrl_grammar.2.2 _ _ (by decide) hsegs (by decide) (by decide)⟩

/-- The position of `pat` in `s` passes both tests for absence as the unsigned one does, and the
cut behind `pat` starts inside `s`. -/
structure PositionInRange (s pat : Bytes) : Prop where
  npos_test : toSizeT (toInt (find s pat)) = npos ↔ find s pat = npos
  sign_test : -1 < toInt (find s pat) ↔ find s pat ≠ npos
  start : find s pat ≠ npos → addSizeT (toSizeT (toInt (find s pat))) pat.length ≤ s.length

theorem positionInRange {s pat : Bytes} (hlen : s.length < 2 ^ 31) : PositionInRange s pat := by
  cases hc : cut pat s with
  | none =>
    have hfind : find s pat = npos := find_of_absent (cut_eq_none_iff.1 hc)
    have hint := toInt_find_of_absent hc
    refine ⟨?_, ?_, ?_⟩
    · rw [hint, hfind, toSizeT_neg_one]
    · rw [hint, hfind]
      simp
    · intro hne
      exact absurd hfind hne
  | some r =>
    obtain ⟨p, t⟩ := r
    have hl := congrArg List.length (cut_eq_some_iff.1 hc).1
    simp only [List.length_append] at hl
    obtain ⟨hsign, hsize⟩ := toInt_find hc (length_before_lt hlen hc)
    have hne : p.length ≠ npos := by
      rw [npos]
      omega
    refine ⟨?_, ?_, ?_⟩
    · rw [hsize, find_of_cut hc]
    · rw [find_of_cut hc] at hsign ⊢
      exact iff_of_true hsign hne
    · intro _
      rw [hsize, addSizeT]
      omega

/-- The searches of `CreateHeaderRequest` and `ParseUrl` on one URL. -/
structure BuilderInRange (url : Bytes) : Prop where
  scheme : PositionInRange url searchmask
  path : ∀ searchurl, skipScheme url = .ok searchurl → PositionInRange searchurl [slash]
  host : ∀ parsedUrl, parseUrl url = .ok parsedUrl →
    PositionInRange url (parsedUrl.headD url)

theorem builderInRange {url : Bytes} (hlen : url.length < 2 ^ 31) : BuilderInRange url where
  scheme := positionInRange hlen
  path := by
    intro searchurl hskip
    exact positionInRange (Nat.lt_of_le_of_lt (skipScheme_suffix hskip).length_le hlen)
  host := fun _ _ => positionInRange hlen

def CheckInRange (url : Bytes) : Prop :=
  (find url httpsScheme ≠ npos → httpsScheme.length ≤ url.length) ∧
    (find url httpScheme ≠ npos → httpScheme.length ≤ url.length)

theorem checkInRange (url : Bytes) : CheckInRange url :=
  ⟨fun h => (infix_of_find_ne_npos h).length_le, fun h => (infix_of_find_ne_npos h).length_le⟩

/-- Once the request is prepared, nothing is thrown: the resolver's exception is caught. -/
theorem connectClient_returns {url : Bytes} {type : RequestType} {r : Bytes × Bytes}
    (hp : prepare url type = .ok r) (port : Int32) (w : World) :
    ∃ connected after, (connectClient url port type).run w = .ok connected after := by
  rw [connectClient_run, hp]
  dsimp only
  split
  · exact ⟨_, _, rfl⟩
  · exact ⟨_, _, rfl⟩

theorem url_pipeline_in_range {url : Bytes} (hlen : url.length < 2 ^ 31) :
    CheckInRange url ∧ BuilderInRange url ∧
      (∀ type, ∃ header, createHeaderRequest url type = .ok header) ∧
      ∃ address, checkURL url = .ok address ∧ BuilderInRange address ∧
        (∀ type, ∃ header, createHeaderRequest address type = .ok header) ∧
        (∃ parsedurl, parseUrl address = .ok parsedurl) ∧
        ∀ port type w, ∃ connected after name rest,
          (connectClient url port type).run w = .ok connected after ∧
            after.trace = w.trace ++ .resolve name port :: rest := by
  obtain ⟨address, hcheck, hsuf⟩ := checkURL_suffix url
  have hshort := Nat.lt_of_le_of_lt hsuf.length_le hlen
  refine ⟨checkInRange url, builderInRange hlen, fun type => ⟨_, createHeaderRequest_eq hlen type⟩,
    address, hcheck, builderInRange hshort, fun type => ⟨_, createHeaderRequest_eq hshort type⟩,
    ⟨_, parseUrl_eq hshort⟩, ?_⟩
  intro port type w
  have hp := prepare_eq hcheck hshort type
  obtain ⟨connected, after, hrun⟩ := connectClient_returns hp port w
  obtain ⟨rest, htrace, -⟩ := (connectClient_requested hp port w).trace_eq
  rw [hrun] at htrace
  exact ⟨connected, after, _, rest, hrun, htrace⟩

theorem url_pipeline_in_range_scheme_in_path :
    let url := text "http://a/https://"
    CheckInRange url ∧ BuilderInRange url ∧ ∃ address, checkURL url = .ok address := by
  intro url
  obtain ⟨hcheck, hbuilder, -, address, haddress, -⟩ :=
    @url_pipeline_in_range (text "http://a/https://") (by decide)
  exact ⟨hcheck, hbuilder, address, haddress⟩

end AsioClient
