import AsioClient.UrlGrammar

/-!
A scheme in front of a URL and `CreateHeaderRequest`: the segments are looked for behind the
scheme, but the host is searched for in the whole URL, and without a path it is the whole URL.
-/

set_option autoImplicit false

namespace AsioClient
open FirstOccurrence SplitPieces

def isSchemeChar (c : UInt8) : Bool :=
  ('a'.toUInt8 ≤ c && c ≤ 'z'.toUInt8) || ('A'.toUInt8 ≤ c && c ≤ 'Z'.toUInt8) ||
    ('0'.toUInt8 ≤ c && c ≤ '9'.toUInt8) || c == '+'.toUInt8 || c == '-'.toUInt8 ||
    c == '.'.toUInt8

structure SchemeName (s : Bytes) : Prop where
  nonempty : s ≠ []
  chars : ∀ c ∈ s, isSchemeChar c = true

theorem SchemeName.no_colon {s : Bytes} (hs : SchemeName s) : colon ∉ s := by
  intro hmem
  have hchar := hs.chars colon hmem
  revert hchar
  decide

theorem SchemeName.no_slash {s : Bytes} (hs : SchemeName s) : slash ∉ s := by
  intro hmem
  have hchar := hs.chars slash hmem
  revert hchar
  decide

structure SchemelessUrl (u : Bytes) : Prop where
  no_mask : ¬ searchmask <:+: u
  starts : ∃ c rest, u = c :: rest ∧ c ≠ slash

def withScheme (s u : Bytes) : Bytes := s ++ searchmask ++ u

def beforeSlash (u : Bytes) : Bytes := u.takeWhile (· ≠ slash)
def fromSlash (u : Bytes) : Bytes := u.dropWhile (· ≠ slash)

/-- The URL has a slash, at a position that is not negative as an `int`. -/
def HasPath (u : Bytes) : Prop := slash ∈ u ∧ (beforeSlash u).length % 2 ^ 32 < 2 ^ 31

/-- The host is a segment that the scheme and its colon do not contain, and either the position
behind the scheme fits an `int` or the path is the default one. -/
structure SchemeHarmless (s u : Bytes) : Prop where
  hasPath : HasPath u
  shortScheme : s.length < 2 ^ 31
  apart : ¬ beforeSlash u <:+: s ++ [colon]
  fits : s.length + searchmask.length < 2 ^ 31 ∨ fromSlash u = text "/index.html"

theorem SchemelessUrl.leading {u : Bytes} (hu : SchemelessUrl u) :
    Leading slash u 0 (beforeSlash u) (fromSlash u) := by
  obtain ⟨c, rest, rfl, hc⟩ := hu.starts
  exact leading_takeWhile hc

theorem SchemelessUrl.split {u : Bytes} (hu : SchemelessUrl u) :
    u = beforeSlash u ++ fromSlash u :=
  hu.leading.split

theorem SchemelessUrl.fromSlash_eq {u : Bytes} (hu : SchemelessUrl u) (hs : slash ∈ u) :
    ∃ path, fromSlash u = slash :: path := by
  rcases hu.leading.stops with hnil | hpath
  · have hsplit := hu.split
    rw [hnil, List.append_nil] at hsplit
    exact absurd (hsplit ▸ hs) hu.leading.clean
  · exact hpath

theorem SchemelessUrl.parseUrl_eq {url u : Bytes} (hu : SchemelessUrl u) (hs : slash ∈ u)
    (hskip : skipScheme url = .ok u) :
    ∃ ps, parseUrl url =
      .ok (if (beforeSlash u).length % 2 ^ 32 < 2 ^ 31 then beforeSlash u :: ps else []) := by
  obtain ⟨path, hpath⟩ := hu.fromSlash_eq hs
  have hsplit := hu.split
  rw [hpath] at hsplit
  exact ⟨_, parseUrl_of_skip_slash (hsplit ▸ hskip) hu.leading.nonempty hu.leading.clean⟩

theorem parseUrl_of_hasPath {url u : Bytes} (hu : SchemelessUrl u) (hn : HasPath u)
    (hskip : skipScheme url = .ok u) : ∃ ps, parseUrl url = .ok (beforeSlash u :: ps) := by
  obtain ⟨ps, hparse⟩ := hu.parseUrl_eq hn.1 hskip
  rw [if_pos hn.2] at hparse
  exact ⟨ps, hparse⟩

theorem parseUrl_of_not_hasPath {url u : Bytes} (hu : SchemelessUrl u) (hn : ¬ HasPath u)
    (hskip : skipScheme url = .ok u) : parseUrl url = .ok [] := by
  by_cases hs : slash ∈ u
  · obtain ⟨ps, hparse⟩ := hu.parseUrl_eq hs hskip
    rwa [if_neg fun hpos => hn ⟨hs, hpos⟩] at hparse
  · exact parseUrl_of_skip_no_slash hskip hs

theorem length_requestText (target host : Bytes) :
    (requestText target host).length = target.length + host.length + 44 := by
  simp only [requestText, List.length_append, show (text "GET ").length = 4 from rfl,
    show (text " HTTP/1.1").length = 9 from rfl, show (text "Host: ").length = 6 from rfl,
    show (text "Connection: close").length = 17 from rfl, show crlf.length = 2 from rfl]
  omega

theorem SchemelessUrl.ne_beforeSlash {u : Bytes} (hu : SchemelessUrl u) (hn : HasPath u)
    {whole : Bytes} (hin : u <:+: whole) : beforeSlash u ≠ whole := by
  intro heq
  exact hu.leading.clean (heq ▸ hin.mem hn.1)

theorem createHeaderRequest_schemeless {u : Bytes} (hu : SchemelessUrl u) (hn : HasPath u)
    (hlen : u.length ≤ maxSize) (type : RequestType) :
    createHeaderRequest u type = .ok (requestText (fromSlash u) (beforeSlash u)) := by
  have hskip : skipScheme u = .ok u := skipScheme_of_absent (cut_eq_none_iff.2 hu.no_mask)
  obtain ⟨ps, hparse⟩ := parseUrl_of_hasPath hu hn hskip
  have hcut : cut (beforeSlash u) u = some ([], fromSlash u) := by
    have hfront := cut_append_left (t := fromSlash u) hu.leading.nonempty
    rwa [← hu.split] at hfront
  have hsub : getSubrequest (beforeSlash u) u = .ok (fromSlash u) :=
    getSubrequest_of_cut (hu.ne_beforeSlash hn List.infix_rfl) hlen hcut (by simp)
  obtain ⟨path, hpath⟩ := hu.fromSlash_eq hn.1
  rw [createHeaderRequest_of_parts hparse hsub, hpath]
  rfl

theorem createHeaderRequest_schemeless_bare {u : Bytes} (hu : SchemelessUrl u)
    (hn : ¬ HasPath u) (type : RequestType) :
    createHeaderRequest u type = .ok (requestText (text "/index.html") u) := by
  have hskip : skipScheme u = .ok u := skipScheme_of_absent (cut_eq_none_iff.2 hu.no_mask)
  exact createHeaderRequest_of_no_segments (parseUrl_of_not_hasPath hu hn hskip) type

theorem SchemeName.cut_withScheme {s : Bytes} (hs : SchemeName s) (u : Bytes) :
    cut searchmask (withScheme s u) = some (s, u) :=
  unbordered_searchmask.cut_append searchmask_ne_nil fun hin =>
    hs.no_colon (hin.mem List.mem_cons_self)

theorem skipScheme_withScheme {s u : Bytes} (hs : SchemeName s) (hshort : s.length < 2 ^ 31)
    (hlen : (withScheme s u).length ≤ maxSize) : skipScheme (withScheme s u) = .ok u :=
  skipScheme_of_cut hlen (hs.cut_withScheme u) hshort

theorem withScheme_eq (s u : Bytes) :
    withScheme s u = (s ++ [colon]) ++ slash :: slash :: u := by
  simp [withScheme, searchmask_eq]

theorem infix_withScheme (s u : Bytes) : u <:+: withScheme s u :=
  (List.suffix_append (s ++ searchmask) u).isInfix

theorem length_withScheme (s u : Bytes) :
    (withScheme s u).length = s.length + 3 + u.length := by
  simp only [withScheme, List.length_append, length_searchmask]

theorem cut_host_behind {s u : Bytes} (hu : SchemelessUrl u)
    (hapart : ¬ beforeSlash u <:+: s ++ [colon]) :
    cut (beforeSlash u) (withScheme s u) = some (s ++ searchmask, fromSlash u) := by
  have hne := hu.leading.nonempty
  have hclean := hu.leading.clean
  have hwhole : withScheme s u = s ++ searchmask ++ beforeSlash u ++ fromSlash u := by
    rw [withScheme, List.append_assoc _ (beforeSlash u), ← hu.split]
  have hshape : s ++ searchmask ++ (beforeSlash u).dropLast =
      (s ++ [colon]) ++ slash :: ([] ++ slash :: (beforeSlash u).dropLast) := by
    simp [searchmask_eq]
  rw [hwhole, cut_append_iff hne, hshape, infix_append_cons_iff_or hclean,
    infix_append_cons_iff_or hclean]
  rintro (hin | hin | hin)
  · exact hapart hin
  · exact hne (List.infix_nil.1 hin)
  · have hle := hin.length_le
    have hpos := List.length_pos_iff.2 hne
    rw [List.length_dropLast] at hle
    omega

theorem cut_host_in_scheme {s u : Bytes} (hin : beforeSlash u <:+: s ++ [colon]) :
    ∃ p t, cut (beforeSlash u) (withScheme s u) = some (p, t) ∧
      p.length + (beforeSlash u).length ≤ s.length + 1 := by
  obtain ⟨x, y, hxy⟩ := hin
  have hocc : withScheme s u = x ++ beforeSlash u ++ (y ++ slash :: slash :: u) := by
    rw [withScheme_eq, ← hxy]
    simp
  have hsome : beforeSlash u <:+: withScheme s u := ⟨x, _, hocc.symm⟩
  obtain ⟨p, t, hcut⟩ := exists_cut_of_infix hsome
  have hle := (cut_eq_some_iff.1 hcut).2 x _ hocc
  have hlen := congrArg List.length hxy
  simp only [List.length_append, List.length_singleton] at hlen
  exact ⟨p, t, hcut, by omega⟩

theorem requestText_target_inj {target target' host : Bytes} :
    requestText target host = requestText target' host ↔ target = target' := by
  simp [requestText]

theorem ok_requestText_ne {target host target' host' : Bytes}
    (h : target.length + host.length ≠ target'.length + host'.length) :
    (Except.ok (requestText target host) : Except Exn Bytes) ≠
      .ok (requestText target' host') := by
  intro heq
  have hlen := congrArg List.length (Except.ok.inj heq)
  rw [length_requestText, length_requestText] at hlen
  omega

theorem request_differs_in_scheme {s u : Bytes} (hs : SchemeName s) (hu : SchemelessUrl u)
    (hlen : (withScheme s u).length ≤ maxSize) (hshort : s.length < 2 ^ 31) (hn : HasPath u)
    (hin : beforeSlash u <:+: s ++ [colon]) (type : RequestType) :
    createHeaderRequest (withScheme s u) type ≠
      .ok (requestText (fromSlash u) (beforeSlash u)) := by
  obtain ⟨ps, hparse⟩ := parseUrl_of_hasPath hu hn (skipScheme_withScheme hs hshort hlen)
  obtain ⟨p, t, hcut, hle⟩ := cut_host_in_scheme (u := u) hin
  have hne := hu.ne_beforeSlash hn (infix_withScheme s u)
  have hpos := List.length_pos_iff.2 hu.leading.nonempty
  have hsub := getSubrequest_of_cut hne hlen hcut (by omega)
  have hparts := congrArg List.length (cut_eq_some_iff.1 hcut).1
  have hsplit := congrArg List.length hu.split
  rw [length_withScheme] at hparts
  simp only [List.length_append] at hparts hsplit
  have hlong : (fromSlash u).length < t.length := by omega
  have htarget : targetOf t = t := by
    rw [targetOf_eq, if_neg]
    rintro rfl
    simp at hlong
  rw [createHeaderRequest_of_parts hparse hsub, htarget]
  refine ok_requestText_ne ?_
  show t.length + (beforeSlash u).length ≠ _
  omega

theorem request_apart_iff {s u : Bytes} (hs : SchemeName s) (hu : SchemelessUrl u)
    (hlen : (withScheme s u).length ≤ maxSize) (hshort : s.length < 2 ^ 31) (hn : HasPath u)
    (hapart : ¬ beforeSlash u <:+: s ++ [colon]) (type : RequestType) :
    createHeaderRequest (withScheme s u) type =
        .ok (requestText (fromSlash u) (beforeSlash u)) ↔
      s.length + searchmask.length < 2 ^ 31 ∨ fromSlash u = text "/index.html" := by
  obtain ⟨ps, hparse⟩ := parseUrl_of_hasPath hu hn (skipScheme_withScheme hs hshort hlen)
  obtain ⟨path, hpath⟩ := hu.fromSlash_eq hn.1
  have hcut := cut_host_behind hu hapart
  have hne := hu.ne_beforeSlash hn (infix_withScheme s u)
  have hmask := length_searchmask
  have hplace : (s ++ searchmask).length = s.length + searchmask.length := List.length_append
  by_cases hfits : s.length + searchmask.length < 2 ^ 31
  · have hsub := getSubrequest_of_cut hne hlen hcut (by rwa [hplace])
    rw [createHeaderRequest_of_parts hparse hsub, hpath]
    exact iff_of_true rfl (.inl hfits)
  · have hneg : ¬ -1 < toInt (find (withScheme s u) (beforeSlash u)) := by
      rw [find_of_cut hcut, neg_one_lt_toInt_iff, hplace]
      omega
    have hsub : getSubrequest (beforeSlash u) (withScheme s u) = .ok [] := by
      simp only [getSubrequest, if_neg hne, if_neg hneg]
    rw [createHeaderRequest_of_parts hparse hsub, Except.ok.injEq]
    simp only [hfits, false_or]
    exact requestText_target_inj.trans eq_comm

theorem same_request_short_iff {s u : Bytes} (hs : SchemeName s) (hu : SchemelessUrl u)
    (hlen : (withScheme s u).length ≤ maxSize) (hshort : s.length < 2 ^ 31)
    (type : RequestType) :
    createHeaderRequest (withScheme s u) type = createHeaderRequest u type ↔
      SchemeHarmless s u := by
  have hwhole := length_withScheme s u
  by_cases hn : HasPath u
  · rw [createHeaderRequest_schemeless hu hn (by omega)]
    by_cases hin : beforeSlash u <:+: s ++ [colon]
    · exact iff_of_false (request_differs_in_scheme hs hu hlen hshort hn hin type)
        fun hok => hok.apart hin
    · rw [request_apart_iff hs hu hlen hshort hn hin]
      exact ⟨fun hfits => ⟨hn, hshort, hin, hfits⟩, fun hok => hok.fits⟩
  · have hskip := skipScheme_withScheme hs hshort hlen
    have hbare := createHeaderRequest_of_no_segments (parseUrl_of_not_hasPath hu hn hskip) type
    refine iff_of_false ?_ fun hok => hn hok.hasPath
    rw [hbare, createHeaderRequest_schemeless_bare hu hn]
    exact ok_requestText_ne (by omega)

/-- The cut that follows is out of range or inside the scheme; what it leaves of the scheme has
a length that is negative as an `int`. -/
theorem long_position {n m : Nat} (hlong : 2 ^ 31 ≤ n) (hm : m ≤ maxSize)
    (hp : addSizeT (toSizeT (toInt n)) searchmask.length ≤ m) :
    addSizeT (toSizeT (toInt n)) searchmask.length ≤ n ∧
      ¬ (n - addSizeT (toSizeT (toInt n)) searchmask.length + 1) % 2 ^ 32 < 2 ^ 31 := by
  have hsize := toSizeT_toInt n
  rw [maxSize] at hm
  rw [length_searchmask, addSizeT] at hp ⊢
  split at hsize
  · omega
  · omega

theorem SchemeName.no_slash_colon {s : Bytes} (hs : SchemeName s) (k : Nat) :
    slash ∉ s.drop k ++ [colon] := by
  intro hmem
  rcases List.mem_append.1 hmem with hdrop | hcolon
  · exact hs.no_slash (List.mem_of_mem_drop hdrop)
  · revert hcolon
    decide

theorem headD_parseUrl_long {s u : Bytes} {parsedUrl : List Bytes} (hs : SchemeName s)
    (hlong : 2 ^ 31 ≤ s.length) (hlen : (withScheme s u).length ≤ maxSize)
    (hp : parseUrl (withScheme s u) = .ok parsedUrl) :
    parsedUrl.headD (withScheme s u) = withScheme s u ∨
      parsedUrl.headD (withScheme s u) = s ++ [colon] := by
  have hskip : skipScheme (withScheme s u) =
      if toSizeT (toInt s.length) ≠ npos then
        substr (withScheme s u) (addSizeT (toSizeT (toInt s.length)) searchmask.length)
      else .ok (withScheme s u) := by
    simp only [skipScheme, find_of_cut (hs.cut_withScheme u)]
  by_cases hnpos : toSizeT (toInt s.length) = npos
  · rw [if_neg (not_not.2 hnpos)] at hskip
    have hparse := parseUrl_of_skip_slash (hskip.trans (congrArg _ (withScheme_eq s u)))
      (by simp) (hs.no_slash_colon 0)
    rw [hparse, Except.ok.injEq] at hp
    subst hp
    split
    · exact .inr rfl
    · exact .inl rfl
  · rw [if_pos hnpos, substr] at hskip
    split at hskip
    · rename_i hstart
      obtain ⟨hle, hneg⟩ := long_position hlong hlen hstart
      generalize addSizeT (toSizeT (toInt s.length)) searchmask.length = start at *
      have hdrop : (withScheme s u).drop start =
          (s.drop start ++ [colon]) ++ slash :: slash :: u := by
        rw [withScheme_eq, List.append_assoc, List.drop_append_of_le_length hle,
          List.append_assoc]
      have hparse := parseUrl_of_skip_slash (hskip.trans (congrArg _ hdrop)) (by simp)
        (hs.no_slash_colon start)
      have hrest : (s.drop start ++ [colon]).length = s.length - start + 1 := by simp
      rw [hrest, if_neg hneg] at hparse
      rw [hparse, Except.ok.injEq] at hp
      subst hp
      exact .inl rfl
    · rw [parseUrl, hskip] at hp
      cases hp

theorem length_request_long {s u r : Bytes} {type : RequestType} (hs : SchemeName s)
    (hlong : 2 ^ 31 ≤ s.length) (hlen : (withScheme s u).length ≤ maxSize)
    (hr : createHeaderRequest (withScheme s u) type = .ok r) :
    s.length + u.length + 44 < r.length := by
  obtain ⟨parsedUrl, subReq, hp, hsub, rfl⟩ := createHeaderRequest_ok hr
  rw [length_requestText]
  rcases headD_parseUrl_long hs hlong hlen hp with hhost | hhost
  · rw [hhost, length_withScheme]
    omega
  · have hne : s ++ [colon] ≠ withScheme s u := by
      simp [withScheme_eq]
    have hcut : cut (s ++ [colon]) (withScheme s u) = some ([], slash :: slash :: u) := by
      rw [withScheme_eq]
      exact cut_append_left (by simp)
    rw [hhost, getSubrequest_of_cut hne hlen hcut (by simp), Except.ok.injEq] at hsub
    subst hsub
    rw [hhost]
    show (slash :: slash :: u).length + _ + 44 > _
    simp only [List.length_cons, List.length_append, List.length_nil]
    omega

theorem length_request_schemeless {u : Bytes} (hu : SchemelessUrl u) (hlen : u.length ≤ maxSize)
    (type : RequestType) :
    ∃ r, createHeaderRequest u type = .ok r ∧ r.length ≤ u.length + 55 := by
  by_cases hn : HasPath u
  · refine ⟨_, createHeaderRequest_schemeless hu hn hlen type, ?_⟩
    have hsplit := congrArg List.length hu.split
    rw [List.length_append] at hsplit
    rw [length_requestText]
    omega
  · refine ⟨_, createHeaderRequest_schemeless_bare hu hn type, ?_⟩
    rw [length_requestText, show (text "/index.html").length = 11 from rfl]
    omega

theorem same_request_iff {s u : Bytes} (hs : SchemeName s) (hu : SchemelessUrl u)
    (hlen : (withScheme s u).length ≤ maxSize) (type : RequestType) :
    createHeaderRequest (withScheme s u) type = createHeaderRequest u type ↔
      SchemeHarmless s u := by
  by_cases hshort : s.length < 2 ^ 31
  · exact same_request_short_iff hs hu hlen hshort type
  · refine iff_of_false ?_ fun hok => hshort hok.shortScheme
    intro hsame
    have hwhole := length_withScheme s u
    obtain ⟨r, hr, hle⟩ := length_request_schemeless hu (by omega) type
    have hlt := length_request_long hs (by omega) hlen (hsame.trans hr)
    omega

theorem schemeName_http : SchemeName (text "http") := ⟨by decide, by decide +kernel⟩

theorem same_request_plain :
    createHeaderRequest (withScheme (text "http") (text "a.org/b")) .POST =
      createHeaderRequest (text "a.org/b") .POST := by
  have hu : SchemelessUrl (text "a.org/b") := ⟨by decide, _, _, rfl, by decide⟩
  have hiff := @same_request_iff (text "http") (text "a.org/b") schemeName_http hu (by decide) .POST
  exact hiff.2 ⟨⟨by decide, by decide⟩, by decide, by decide, .inl (by decide)⟩

/-- Without a path the scheme stays part of the host; a host that is a letter of the scheme is
found there. -/
theorem scheme_changes_request :
    SchemeName (text "http") ∧ SchemelessUrl (text "a.org") ∧ SchemelessUrl (text "p/x") ∧
      createHeaderRequest (withScheme (text "http") (text "a.org")) .GET =
        .ok (requestText (text "/index.html") (text "http://a.org")) ∧
      createHeaderRequest (withScheme (text "http") (text "a.org")) .GET ≠
        createHeaderRequest (text "a.org") .GET ∧
      createHeaderRequest (withScheme (text "http") (text "p/x")) .GET ≠
        createHeaderRequest (text "p/x") .GET := by
  refine ⟨schemeName_http, ⟨by decide, _, _, rfl, by decide⟩,
    ⟨by decide, _, _, rfl, by decide⟩, ?_, ?_, ?_⟩
  · decide +kernel
  · decide +kernel
  · decide +kernel

end AsioClient
