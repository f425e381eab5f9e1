import Mathlib.Data.List.Infix

/-!
Splitting a list at one symbol, keeping the non-empty pieces, and splitting it at a pair of
adjacent symbols, keeping every line. Both splittings commute with concatenation at a
separator, which is all that their users need.
-/

set_option autoImplicit false

namespace SplitPieces

variable {α : Type} [DecidableEq α]

/-- The non-empty maximal stretches of `s` without `sep`, in order. -/
def pieces (sep : α) (s : List α) : List (List α) := (s.splitOn sep).filter (· ≠ [])

@[simp] theorem pieces_nil (sep : α) : pieces sep [] = [] := by simp [pieces]

theorem pieces_append_sep (sep : α) (x s : List α) :
    pieces sep (x ++ sep :: s) = pieces sep x ++ pieces sep s := by
  simp [pieces, List.splitOn_append_cons_self]

@[simp] theorem pieces_sep_cons (sep : α) (s : List α) :
    pieces sep (sep :: s) = pieces sep s := by
  simpa using pieces_append_sep sep [] s

theorem pieces_of_not_mem {sep : α} {x : List α} (hne : x ≠ []) (h : sep ∉ x) :
    pieces sep x = [x] := by
  simp [pieces, List.splitOn_eq_singleton h, hne]

theorem pieces_replicate_append (sep : α) (k : Nat) (s : List α) :
    pieces sep (List.replicate k sep ++ s) = pieces sep s := by
  induction k with
  | zero => rfl
  | succ k ih => simp [List.replicate_succ, ih]

/-- `s` starts with `k` separators and then the piece `x`; `rest` is what follows it. -/
structure Leading (sep : α) (s : List α) (k : Nat) (x rest : List α) : Prop where
  split : s = List.replicate k sep ++ x ++ rest
  nonempty : x ≠ []
  clean : sep ∉ x
  stops : rest = [] ∨ ∃ t, rest = sep :: t

theorem Leading.pieces_eq {sep : α} {s x rest : List α} {k : Nat}
    (h : Leading sep s k x rest) : pieces sep s = x :: pieces sep rest := by
  rw [h.split, List.append_assoc, pieces_replicate_append]
  rcases h.stops with rfl | ⟨t, rfl⟩
  · simp [pieces_of_not_mem h.nonempty h.clean]
  · simp [pieces_append_sep, pieces_of_not_mem h.nonempty h.clean]

theorem not_mem_takeWhile_ne (sep : α) (s : List α) : sep ∉ s.takeWhile (· ≠ sep) := by
  intro hmem
  have hall := List.all_eq_true.1 (List.all_takeWhile (p := (decide <| · ≠ sep))) sep hmem
  simp at hall

theorem dropWhile_ne_stops (sep : α) (s : List α) :
    s.dropWhile (· ≠ sep) = [] ∨ ∃ t, s.dropWhile (· ≠ sep) = sep :: t := by
  cases hd : s.dropWhile (· ≠ sep) with
  | nil => exact .inl rfl
  | cons d t =>
    have hhead := List.head?_dropWhile_not (fun z => decide (z ≠ sep)) s
    rw [hd] at hhead
    simp only [List.head?_cons, ne_eq, decide_not, Bool.not_eq_eq_eq_not, Bool.not_false,
      decide_eq_true_eq] at hhead
    exact .inr ⟨t, by rw [hhead]⟩

theorem leading_takeWhile {sep c : α} {s : List α} (hc : c ≠ sep) :
    Leading sep (c :: s) 0 ((c :: s).takeWhile (· ≠ sep)) ((c :: s).dropWhile (· ≠ sep)) where
  split := by simp [List.takeWhile_append_dropWhile]
  nonempty := by simp [hc]
  clean := not_mem_takeWhile_ne sep (c :: s)
  stops := dropWhile_ne_stops sep (c :: s)

theorem exists_leading {sep : α} {s : List α} (h : ∃ c ∈ s, c ≠ sep) :
    ∃ k x rest, Leading sep s k x rest := by
  induction s with
  | nil => simp at h
  | cons c s ih =>
    by_cases hc : c = sep
    · subst c
      obtain ⟨k, x, rest, hl⟩ := ih (by simpa using h)
      refine ⟨k + 1, x, rest, ?_, hl.nonempty, hl.clean, hl.stops⟩
      simp [List.replicate_succ, hl.split]
    · exact ⟨0, _, _, leading_takeWhile hc⟩

theorem Leading.takeWhile_eq {sep : α} {s x rest : List α} {k : Nat}
    (h : Leading sep s k x rest) : s.takeWhile (· = sep) = List.replicate k sep := by
  obtain ⟨c, x', rfl⟩ := List.exists_cons_of_ne_nil h.nonempty
  have hc : c ≠ sep := fun e => h.clean (by simp [e])
  rw [h.split, List.append_assoc, List.takeWhile_append_of_pos (by simp)]
  simp [hc]

theorem Leading.unique {sep : α} {s x y rest rest' : List α} {k l : Nat}
    (h : Leading sep s k x rest) (h' : Leading sep s l y rest') :
    k = l ∧ x = y ∧ rest = rest' := by
  have hk : k = l := by
    have := h.takeWhile_eq.symm.trans h'.takeWhile_eq
    simpa using congrArg List.length this
  obtain ⟨rfl, -⟩ := List.cons.inj (h.pieces_eq.symm.trans h'.pieces_eq)
  subst hk
  exact ⟨rfl, rfl, List.append_cancel_left (h.split.symm.trans h'.split)⟩

theorem pieces_eq_nil_iff {sep : α} {s : List α} : pieces sep s = [] ↔ ∀ c ∈ s, c = sep := by
  constructor
  · intro h
    by_contra hc
    push Not at hc
    obtain ⟨k, x, rest, hl⟩ := exists_leading hc
    rw [hl.pieces_eq] at h
    contradiction
  · intro h
    induction s with
    | nil => simp
    | cons c s ih =>
      obtain rfl := h c (by simp)
      simpa using ih (fun d hd => h d (by simp [hd]))

theorem exists_leading_of_pieces {sep : α} {s x : List α} {ps : List (List α)}
    (h : pieces sep s = x :: ps) : ∃ k rest, Leading sep s k x rest := by
  have hne : ∃ c ∈ s, c ≠ sep := by
    by_contra hc
    push Not at hc
    rw [pieces_eq_nil_iff.2 hc] at h
    contradiction
  obtain ⟨k, y, rest, hl⟩ := exists_leading hne
  obtain ⟨rfl, -⟩ := List.cons.inj (hl.pieces_eq.symm.trans h)
  exact ⟨k, rest, hl⟩

/-- `ps` are the non-empty maximal stretches of `s` without `sep`, one after the other. -/
inductive IsPieces (sep : α) : List α → List (List α) → Prop where
  | nil {s : List α} : (∀ c ∈ s, c = sep) → IsPieces sep s []
  | cons {s x rest : List α} {k : Nat} {ps : List (List α)} :
      Leading sep s k x rest → IsPieces sep rest ps → IsPieces sep s (x :: ps)

theorem isPieces_iff {sep : α} {s : List α} {ps : List (List α)} :
    IsPieces sep s ps ↔ ps = pieces sep s := by
  constructor
  · intro h
    induction h with
    | nil hall => exact (pieces_eq_nil_iff.2 hall).symm
    | cons hl _ ih => rw [hl.pieces_eq, ih]
  · intro hp
    induction ps generalizing s with
    | nil => exact .nil (pieces_eq_nil_iff.1 hp.symm)
    | cons x ps ih =>
      obtain ⟨k, rest, hl⟩ := exists_leading_of_pieces hp.symm
      exact .cons hl (ih (List.cons.inj (hp.trans hl.pieces_eq)).2)

theorem splitOn_intercalate_pieces {sep : α} {ps : List (List α)} (hne : ps ≠ [])
    (h : ∀ x ∈ ps, x ≠ [] ∧ sep ∉ x) : ([sep].intercalate ps).splitOn sep = ps :=
  List.splitOn_intercalate sep (fun x hx => (h x hx).2) hne

theorem pieces_intercalate {sep : α} {ps : List (List α)} (hne : ps ≠ [])
    (h : ∀ x ∈ ps, x ≠ [] ∧ sep ∉ x) : pieces sep ([sep].intercalate ps) = ps := by
  rw [pieces, splitOn_intercalate_pieces hne h, List.filter_eq_self]
  intro x hx
  simpa using (h x hx).1

theorem not_sep_sep_infix_intercalate {sep : α} {ps : List (List α)} (hne : ps ≠ [])
    (h : ∀ x ∈ ps, x ≠ [] ∧ sep ∉ x) : ¬ [sep, sep] <:+: [sep].intercalate ps := by
  intro ⟨p, t, hin⟩
  have hsplit := splitOn_intercalate_pieces hne h
  have hgap : (sep :: t).splitOn sep = [] :: t.splitOn sep :=
    List.splitOn_append_cons_self [] t
  rw [← hin, List.append_assoc, List.cons_append, List.splitOn_append_cons_self,
    List.cons_append, List.nil_append, hgap] at hsplit
  have hempty : [] ∈ ps := by
    rw [← hsplit]
    simp
  exact (h [] hempty).1 rfl

/-- The lines of `s`: what stands before each `a`, `b`, and last what follows them all. -/
def splitPair (a b : α) : List α → List (List α)
  | [] => [[]]
  | [c] => [[c]]
  | c :: d :: s =>
    if c = a ∧ d = b then [] :: splitPair a b s
    else (splitPair a b (d :: s)).modifyHead (c :: ·)

theorem splitPair_ne_nil (a b : α) (s : List α) : splitPair a b s ≠ [] := by
  fun_induction splitPair a b s <;> simp_all

@[simp] theorem splitPair_sep (a b : α) (s : List α) :
    splitPair a b (a :: b :: s) = [] :: splitPair a b s := by
  simp [splitPair]

theorem splitPair_append_sep {a b : α} (hab : a ≠ b) (s t : List α) :
    splitPair a b (s ++ a :: b :: t) = splitPair a b s ++ splitPair a b t := by
  fun_induction splitPair a b s with
  | case1 => simp
  | case2 c => simp [splitPair, hab]
  | case3 c d s h ih => simp [h.1, h.2, ih]
  | case4 c d s h ih =>
    obtain ⟨l, ls, hl⟩ := List.exists_cons_of_ne_nil (splitPair_ne_nil a b (d :: s))
    simp only [List.cons_append] at ih ⊢
    rw [splitPair, if_neg h, ih, hl]
    rfl

theorem splitPair_of_unbroken {a b : α} {s : List α} (h : ¬ [a, b] <:+: s) :
    splitPair a b s = [s] := by
  fun_induction splitPair a b s with
  | case1 => rfl
  | case2 c => rfl
  | case3 c d s hcd ih => exact absurd ⟨[], s, by simp [hcd.1, hcd.2]⟩ h
  | case4 c d s hcd ih =>
    rw [ih (fun hin => h (hin.trans (List.suffix_cons c (d :: s)).isInfix))]
    rfl

theorem exists_line_ne_nil {a b : α} {s : List α} (h : ∃ c ∈ s, c ≠ a ∧ c ≠ b) :
    ∃ l ∈ splitPair a b s, l ≠ [] := by
  fun_induction splitPair a b s with
  | case1 => simp at h
  | case2 c => exact ⟨[c], by simp⟩
  | case3 c d s hcd ih =>
    obtain ⟨l, hl, hne⟩ := ih (by simpa [hcd.1, hcd.2] using h)
    exact ⟨l, List.mem_cons_of_mem _ hl, hne⟩
  | case4 c d s hcd ih =>
    obtain ⟨l, ls, hl⟩ := List.exists_cons_of_ne_nil (splitPair_ne_nil a b (d :: s))
    exact ⟨c :: l, by simp [hl], by simp⟩

theorem eq_nil_or_sep_of_lines_empty {a b : α} {s : List α}
    (h : ∀ l ∈ splitPair a b s, l = []) : s = [] ∨ ∃ t, s = a :: b :: t := by
  cases s with
  | nil => exact .inl rfl
  | cons c s =>
    cases s with
    | nil => simp [splitPair] at h
    | cons d s =>
      by_cases hcd : c = a ∧ d = b
      · exact .inr ⟨s, by rw [hcd.1, hcd.2]⟩
      · obtain ⟨l, ls, hl⟩ := List.exists_cons_of_ne_nil (splitPair_ne_nil a b (d :: s))
        simp [splitPair, hcd, hl] at h

theorem intercalate_splitPair (a b : α) (s : List α) :
    [a, b].intercalate (splitPair a b s) = s := by
  fun_induction splitPair a b s with
  | case1 => rfl
  | case2 c => simp
  | case3 c d s h ih =>
    rw [List.intercalate_cons_of_ne_nil (splitPair_ne_nil a b s), ih]
    simp [h.1, h.2]
  | case4 c d s h ih =>
    obtain ⟨l, ls, hl⟩ := List.exists_cons_of_ne_nil (splitPair_ne_nil a b (d :: s))
    rw [hl] at ih ⊢
    rw [← ih]
    cases ls with
    | nil => simp
    | cons l' ls => simp [List.intercalate_cons_of_ne_nil]

end SplitPieces
