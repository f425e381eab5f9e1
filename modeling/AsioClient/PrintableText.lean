import AsioClient.CollapsedRuns
import AsioClient.HttpContent

/-!
What `getStringResult` makes of a body: the bytes it keeps, with every run of line ends
collapsed to its first character. The non-empty lines survive, but of a run of both kinds of
line end only one kind does.
-/

set_option autoImplicit false

namespace AsioClient
open CollapsedRuns

def isKept (c : UInt8) : Bool := isPrint c || c == lf || c == cr || c == '\t'.toUInt8

theorem FilterState.step_eq (st : FilterState) (c : UInt8) :
    st.step c =
      if isKept c then
        if isNewline c && st.lastCharWasNewline then st else ⟨st.result ++ [c], isNewline c⟩
      else st := rfl

/-- The flag says whether the byte last kept ended a line, not the byte last seen. -/
theorem FilterState.result_foldl (x : Bytes) (st : FilterState) :
    (x.foldl FilterState.step st).result = st.result ++ firstOfRuns isNewline
      (if st.lastCharWasNewline then (x.filter isKept).dropWhile isNewline
        else x.filter isKept) := by
  induction x generalizing st with
  | nil => simp
  | cons c x ih =>
    rw [List.foldl_cons, ih, FilterState.step_eq]
    cases hk : isKept c with
    | false => simp [hk]
    | true =>
      rw [List.filter_cons_of_pos hk]
      cases hn : isNewline c with
      | true =>
        cases hf : st.lastCharWasNewline with
        | true => simp [hf, hn]
        | false => simp [hn, firstOfRuns_cons_run]
      | false =>
        cases st.lastCharWasNewline with
        | true => simp [hn, firstOfRuns_cons_of_not]
        | false => simp [hn, firstOfRuns_cons_of_not]

theorem getStringResult_eq (x : Bytes) :
    getStringResult x = firstOfRuns isNewline (x.filter isKept) := by
  have hloop := FilterState.result_foldl x ⟨[], false⟩
  cases x with
  | nil => simp [getStringResult]
  | cons c x => simpa [getStringResult] using hloop

theorem isKept_of_mem_getStringResult {x : Bytes} {c : UInt8} (h : c ∈ getStringResult x) :
    isKept c = true := by
  rw [getStringResult_eq] at h
  exact (List.mem_filter.1 ((firstOfRuns_sublist _ _).mem h)).2

theorem isChain_getStringResult (x : Bytes) : (getStringResult x).IsChain (Apart isNewline) := by
  rw [getStringResult_eq]
  exact isChain_firstOfRuns _ _

theorem getStringResult_eq_self_iff {x : Bytes} :
    getStringResult x = x ↔ (∀ c ∈ x, isKept c = true) ∧ x.IsChain (Apart isNewline) := by
  constructor
  · intro h
    have hkept : ∀ c ∈ getStringResult x, isKept c = true :=
      fun _ hc => isKept_of_mem_getStringResult hc
    have hchain := isChain_getStringResult x
    rw [h] at hkept hchain
    exact ⟨hkept, hchain⟩
  · intro ⟨hkept, hchain⟩
    rw [getStringResult_eq, List.filter_eq_self.2 hkept]
    exact firstOfRuns_eq_self_iff.2 hchain

theorem getStringResult_normal_form (x : Bytes) :
    getStringResult x = firstOfRuns isNewline (x.filter isKept) ∧
      (getStringResult x).IsChain (Apart isNewline) ∧
      stretches isNewline (getStringResult x) = stretches isNewline (x.filter isKept) ∧
      getStringResult (getStringResult x) = getStringResult x ∧
      (getStringResult x = x ↔
        (∀ c ∈ x, isKept c = true) ∧ x.IsChain (Apart isNewline)) := by
  refine ⟨getStringResult_eq x, isChain_getStringResult x, ?_, ?_, getStringResult_eq_self_iff⟩
  · rw [getStringResult_eq, stretches_firstOfRuns]
  · exact getStringResult_eq_self_iff.2
      ⟨fun _ hc => isKept_of_mem_getStringResult hc, isChain_getStringResult x⟩

/-- A deleted byte between two line ends does not keep them apart. -/
example : getStringResult [lf, 7, cr, lf, '\t'.toUInt8] = [lf, '\t'.toUInt8] := by decide

def isText (c : UInt8) : Bool := isKept c && !isNewline c

def between (x : Bytes) (i j : Nat) : Bytes := (x.take j).drop (i + 1)

/-- Where the text character at position `i` goes. -/
def image (x : Bytes) (i : Nat) : Nat := (getStringResult (x.take i)).length

theorem getStringResult_append_cons {c : UInt8} (hc : isText c = true) (a b : Bytes) :
    getStringResult (a ++ c :: b) = getStringResult a ++ c :: getStringResult b := by
  simp only [isText, Bool.and_eq_true, Bool.not_eq_true'] at hc
  simp only [getStringResult_eq, List.filter_append, List.filter_cons_of_pos hc.1]
  exact firstOfRuns_append_cons hc.2 _ _

theorem split_at {x : Bytes} {i : Nat} {c : UInt8} (hi : x[i]? = some c) :
    x = x.take i ++ c :: x.drop (i + 1) := by
  obtain ⟨hlt, rfl⟩ := List.getElem?_eq_some_iff.1 hi
  rw [← List.drop_eq_getElem_cons hlt, List.take_append_drop]

theorem getElem?_image {x : Bytes} {i : Nat} {c : UInt8} (hi : x[i]? = some c)
    (hc : isText c = true) : (getStringResult x)[image x i]? = some c := by
  have hsplit := getStringResult_append_cons hc (x.take i) (x.drop (i + 1))
  rw [← split_at hi] at hsplit
  rw [hsplit, image]
  simp

theorem take_eq_between {x : Bytes} {i j : Nat} {c : UInt8} (hij : i < j)
    (hi : x[i]? = some c) : x.take j = x.take i ++ c :: between x i j := by
  have hj : (x.take j)[i]? = some c := by rw [List.getElem?_take_of_lt hij, hi]
  have hsplit := split_at hj
  rwa [List.take_take, Nat.min_eq_left (Nat.le_of_lt hij)] at hsplit

theorem between_image {x : Bytes} {i j : Nat} {c d : UInt8} (hij : i < j)
    (hi : x[i]? = some c) (hj : x[j]? = some d) (hc : isText c = true) (hd : isText d = true) :
    between (getStringResult x) (image x i) (image x j) = getStringResult (between x i j) := by
  have hfront : getStringResult (x.take j) =
      getStringResult (x.take i) ++ c :: getStringResult (between x i j) := by
    rw [take_eq_between hij hi, getStringResult_append_cons hc]
  have hwhole : getStringResult x =
      getStringResult (x.take j) ++ d :: getStringResult (x.drop (j + 1)) := by
    conv_lhs => rw [split_at hj]
    exact getStringResult_append_cons hd _ _
  rw [between, image, image, hwhole, List.take_left, hfront, List.append_cons, List.drop_left']
  simp

/-- A line feed between the two positions leaves one between their images. -/
def KeepsBreak (x : Bytes) (i j : Nat) : Prop :=
  lf ∈ between x i j → lf ∈ between (getStringResult x) (image x i) (image x j)

/-- Some line feed comes first in its run: deleted bytes aside, no line end is right before it. -/
def FeedLeads (s : Bytes) : Prop :=
  ∃ before after, s = before ++ lf :: after ∧
    ∀ c ∈ (before.filter isKept).getLast?, isNewline c = false

theorem lf_mem_getStringResult_iff {s : Bytes} : lf ∈ getStringResult s ↔ FeedLeads s := by
  rw [getStringResult_eq, mem_firstOfRuns_iff (by decide)]
  constructor
  · intro ⟨u, v, hsplit, hlast⟩
    obtain ⟨s₁, s₂, rfl, rfl, hrest⟩ := List.filter_eq_append_iff.1 hsplit
    obtain ⟨t₁, t₂, rfl, hdeleted, -, rfl⟩ := List.filter_eq_cons_iff.1 hrest
    refine ⟨s₁ ++ t₁, t₂, by simp, ?_⟩
    rwa [List.filter_append, List.filter_eq_nil_iff.2 hdeleted, List.append_nil]
  · rintro ⟨before, after, rfl, hlast⟩
    refine ⟨before.filter isKept, after.filter isKept, ?_, hlast⟩
    rw [List.filter_append, List.filter_cons_of_pos (by decide)]

theorem keepsBreak_iff {x : Bytes} {i j : Nat} {c d : UInt8} (hij : i < j)
    (hi : x[i]? = some c) (hj : x[j]? = some d) (hc : isText c = true) (hd : isText d = true) :
    KeepsBreak x i j ↔ lf ∉ between x i j ∨ FeedLeads (between x i j) := by
  rw [KeepsBreak, between_image hij hi hj hc hd, lf_mem_getStringResult_iff]
  exact imp_iff_not_or

theorem keepsBreak_after_deleted : KeepsBreak (text "a\x07\n\rb") 0 4 := by
  have hiff := @keepsBreak_iff (text "a\x07\n\rb") 0 4 _ _ (by decide) rfl rfl (by decide)
    (by decide)
  exact hiff.2 (.inr ⟨[7], [cr], rfl, by decide +kernel⟩)

theorem line_feed_of_crlf_lost :
    let x := text "a\r\nb"
    x[0]? = some 97 ∧ x[3]? = some 98 ∧ isText 97 = true ∧ isText 98 = true ∧
      ¬ KeepsBreak x 0 3 ∧ x.splitOn lf = [text "a\r", text "b"] ∧
      (getStringResult x).splitOn lf = [text "a\rb"] := by
  intro x
  refine ⟨rfl, rfl, by decide, by decide, ?_, by decide, by decide⟩
  intro hkeeps
  have hfed : lf ∈ between (getStringResult x) 0 2 := hkeeps (by decide)
  revert hfed
  decide

theorem filter_isKept_getStringResult (x : Bytes) :
    (getStringResult x).filter isKept = getStringResult x :=
  List.filter_eq_self.2 fun _ hc => isKept_of_mem_getStringResult hc

theorem getStringResult_of_parts (x y : Bytes) :
    getStringResult (getStringResult x ++ getStringResult y) = getStringResult (x ++ y) := by
  rw [getStringResult_eq (getStringResult x ++ getStringResult y), List.filter_append,
    filter_isKept_getStringResult, filter_isKept_getStringResult, getStringResult_eq,
    getStringResult_eq, getStringResult_eq, firstOfRuns_of_collapsed, List.filter_append]

theorem getStringResult_prefix (x y : Bytes) :
    getStringResult x <+: getStringResult (x ++ y) := by
  rw [getStringResult_eq, getStringResult_eq, List.filter_append, firstOfRuns_append_eq]
  exact List.prefix_append _ _

/-- The pieces of a body can be made printable on their own, if what is joined is once more;
and what has been printed of a body stays when more of it comes. -/
theorem getStringResult_piecewise :
    (∀ pieces : List Bytes,
      getStringResult (pieces.map getStringResult).flatten = getStringResult pieces.flatten) ∧
    ∀ x y, getStringResult x <+: getStringResult (x ++ y) := by
  refine ⟨fun pieces => ?_, getStringResult_prefix⟩
  induction pieces with
  | nil => rfl
  | cons x rest ih =>
    have hidem : getStringResult (getStringResult x) = getStringResult x :=
      (getStringResult_eq_self_iff.2
        ⟨fun _ hc => isKept_of_mem_getStringResult hc, isChain_getStringResult x⟩)
    calc getStringResult ((x :: rest).map getStringResult).flatten
        = getStringResult (getStringResult x ++ (rest.map getStringResult).flatten) := rfl
      _ = getStringResult (getStringResult (getStringResult x) ++
            getStringResult (rest.map getStringResult).flatten) :=
          (getStringResult_of_parts _ _).symm
      _ = getStringResult (getStringResult x ++ getStringResult rest.flatten) := by rw [hidem, ih]
      _ = getStringResult (x :: rest).flatten := getStringResult_of_parts _ _

/-- The join of the pieces alone would keep a line end too many. -/
example : getStringResult [lf] ++ getStringResult [cr] ≠ getStringResult [lf, cr] := by decide

end AsioClient
