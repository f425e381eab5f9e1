import AsioClient.HttpContent

/-!
A scheme in front of a URL and `checkURL`: the scheme is looked for anywhere in the URL, but
what is cut off is always the front.
-/

set_option autoImplicit false

namespace AsioClient
open FirstOccurrence

/-- A scheme is taken off the front, and a URL without one in front gives the empty string. -/
structure StripsScheme (url : Bytes) : Prop where
  https : ∀ r, url = httpsScheme ++ r → checkURL url = .ok r
  http : ∀ r, url = httpScheme ++ r → checkURL url = .ok r
  neither : ¬ httpsScheme <+: url → ¬ httpScheme <+: url → checkURL url = .ok []

/-- The scheme that is found first stands in front, or none is found. -/
def SchemeInFront (url : Bytes) : Prop :=
  httpsScheme <+: url ∨ (httpScheme <+: url ∧ ¬ httpsScheme <:+: url) ∨
    (¬ httpsScheme <:+: url ∧ ¬ httpScheme <:+: url)

theorem not_https_prefix_http (r : Bytes) : ¬ httpsScheme <+: httpScheme ++ r := by
  intro ⟨t, ht⟩
  have hfifth : some (115 : UInt8) = some 58 := congrArg (fun l => l[4]?) ht
  cases hfifth

theorem drop_ne_nil_of_not_prefix {pat s : Bytes} (hin : pat <:+: s) (hpre : ¬ pat <+: s) :
    s.drop pat.length ≠ [] := by
  intro hnil
  rw [List.drop_eq_nil_iff] at hnil
  have heq := hin.eq_of_length (Nat.le_antisymm hin.length_le hnil)
  exact hpre (heq ▸ List.prefix_rfl)

theorem StripsScheme.no_longer_scheme {r : Bytes} (hlen : (httpScheme ++ r).length ≤ maxSize)
    (h : StripsScheme (httpScheme ++ r)) : ¬ httpsScheme <:+: httpScheme ++ r := by
  intro hin
  have hcut := h.http r rfl
  rw [checkURL_eq hlen, if_pos hin] at hcut
  have hrest := congrArg List.length (Except.ok.inj hcut)
  have hlong := hin.length_le
  simp only [List.length_drop, List.length_append, show httpsScheme.length = 8 from rfl,
    show httpScheme.length = 7 from rfl] at hrest hlong
  omega

theorem StripsScheme.no_scheme {url : Bytes} (hlen : url.length ≤ maxSize)
    (h : StripsScheme url) (hs : ¬ httpsScheme <+: url) (hh : ¬ httpScheme <+: url) :
    ¬ httpsScheme <:+: url ∧ ¬ httpScheme <:+: url := by
  have hcut := h.neither hs hh
  rw [checkURL_eq hlen] at hcut
  have hsome : ¬ httpsScheme <:+: url := by
    intro hin
    rw [if_pos hin] at hcut
    exact drop_ne_nil_of_not_prefix hin hs (Except.ok.inj hcut)
  refine ⟨hsome, ?_⟩
  intro hin
  rw [if_neg hsome, if_pos hin] at hcut
  exact drop_ne_nil_of_not_prefix hin hh (Except.ok.inj hcut)

theorem StripsScheme.schemeInFront {url : Bytes} (hlen : url.length ≤ maxSize)
    (h : StripsScheme url) : SchemeInFront url := by
  by_cases hs : httpsScheme <+: url
  · exact .inl hs
  by_cases hh : httpScheme <+: url
  · obtain ⟨r, rfl⟩ := hh
    exact .inr (.inl ⟨List.prefix_append _ _, h.no_longer_scheme hlen⟩)
  · exact .inr (.inr (h.no_scheme hlen hs hh))

theorem SchemeInFront.stripsScheme {url : Bytes} (hlen : url.length ≤ maxSize)
    (h : SchemeInFront url) : StripsScheme url := by
  have hcheck := checkURL_eq hlen
  rw [SchemeInFront] at h
  refine ⟨?_, ?_, ?_⟩
  · rintro r rfl
    have hin : httpsScheme <:+: httpsScheme ++ r := (List.prefix_append _ _).isInfix
    rw [hcheck, if_pos hin, List.drop_left]
  · rintro r rfl
    have hin : httpScheme <:+: httpScheme ++ r := (List.prefix_append _ _).isInfix
    have hno : ¬ httpsScheme <:+: httpScheme ++ r := by
      rcases h with hs | ⟨-, hno⟩ | ⟨hno, -⟩
      · exact absurd hs (not_https_prefix_http r)
      · exact hno
      · exact hno
    rw [hcheck, if_neg hno, if_pos hin, List.drop_left]
  · intro hs hh
    rcases h with hs' | ⟨hh', -⟩ | ⟨hno, hno'⟩
    · exact absurd hs' hs
    · exact absurd hh' hh
    · rw [hcheck, if_neg hno, if_neg hno']

theorem stripsScheme_iff {url : Bytes} (hlen : url.length ≤ maxSize) :
    StripsScheme url ↔ SchemeInFront url :=
  ⟨fun h => h.schemeInFront hlen, fun h => h.stripsScheme hlen⟩

theorem stripsScheme_second_scheme : StripsScheme (text "https://a/?u=http://b") := by
  have hiff := @stripsScheme_iff (text "https://a/?u=http://b") (by decide)
  exact hiff.2 (.inl (by decide))

/-- Found in the query, the longer scheme decides how much of the front goes. -/
theorem https_in_query_cuts_host :
    let url := text "http://a/?u=https://b"
    checkURL url = .ok (text "/?u=https://b") ∧ ¬ StripsScheme url := by
  intro url
  have hcut : checkURL url = .ok (text "/?u=https://b") := by decide +kernel
  refine ⟨hcut, fun hstrips => ?_⟩
  have hwhole := hcut.symm.trans (hstrips.http (text "a/?u=https://b") rfl)
  revert hwhole
  decide

end AsioClient
