import Mathlib.Data.List.Infix
import Mathlib.Order.Nat

/-!
First occurrences of a pattern in a list. `cut` is the one search primitive; everything
below says when an occurrence that is visible in a concatenation is the first one.
-/

set_option autoImplicit false

namespace FirstOccurrence

variable {α : Type}

theorem cons_infix_append_iff {x : α} {q p s : List α} (hx : x ∉ p) :
    x :: q <:+: p ++ s ↔ x :: q <:+: s := by
  refine ⟨fun hin => ?_, List.infix_append_of_infix_right⟩
  rcases List.infix_append_iff_ne_nil.1 hin with hp | hs | ⟨u, v, hu, -, huv, hup, -⟩
  · exact absurd (hp.mem (List.mem_cons_self)) hx
  · exact hs
  · obtain ⟨y, u', rfl⟩ := List.exists_cons_of_ne_nil hu
    obtain ⟨rfl, -⟩ := List.cons.inj huv
    exact absurd (hup.mem List.mem_cons_self) hx

theorem concat_infix_append_iff {x : α} {q p s : List α} (hx : x ∉ s) :
    q ++ [x] <:+: p ++ s ↔ q ++ [x] <:+: p := by
  rw [← List.reverse_infix, ← @List.reverse_infix _ _ p]
  simp only [List.reverse_append, List.reverse_singleton, List.singleton_append]
  exact cons_infix_append_iff (by simpa using hx)

/-- A symbol `x` of the pattern that the text before the barrier `y` does not have: the pattern
lies behind the barrier, which the part before `x` does not cross. -/
theorem infix_append_cons_iff {x y : α} {a b p s : List α} (hxp : x ∉ p) (hxy : x ≠ y)
    (hya : y ∉ a) : a ++ x :: b <:+: p ++ y :: s ↔ a ++ x :: b <:+: s := by
  have hxpy : x ∉ p ++ [y] := by simp [hxp, hxy]
  refine ⟨fun hin => ?_, fun hin => ?_⟩
  · rw [List.append_cons p y s] at hin
    rcases List.infix_append_iff_ne_nil.1 hin with hp | hs | ⟨u, v, hu, -, huv, hup, -⟩
    · exact absurd (hp.mem (by simp)) hxpy
    · exact hs
    · -- `u` ends in the barrier, so the part before `x` would have to contain it
      have hxu : x ∉ u := fun hm => hxpy (hup.mem hm)
      have hyu : y ∈ u := by
        obtain ⟨w, hw⟩ := hup
        have hl := congrArg List.getLast? hw
        rw [List.getLast?_append_of_ne_nil _ hu, List.getLast?_concat] at hl
        exact List.mem_of_getLast? hl
      rcases List.append_eq_append_iff.1 huv with ⟨c, huc, hxc⟩ | ⟨c, hac, -⟩
      · cases c with
        | nil => exact absurd (by simpa [huc] using hyu) hya
        | cons z c =>
          obtain ⟨rfl, -⟩ := List.cons.inj hxc
          exact absurd (by simp [huc]) hxu
      · exact absurd (by simp [hac, hyu]) hya
  · exact hin.trans ((List.suffix_cons y s).trans (List.suffix_append p _)).isInfix

theorem infix_append_cons_iff_or {y : α} {pat p s : List α} (hy : y ∉ pat) :
    pat <:+: p ++ y :: s ↔ pat <:+: p ∨ pat <:+: s := by
  constructor
  · intro hin
    rcases List.infix_append_iff_ne_nil.1 hin with hp | hs | ⟨u, v, -, hv, huv, -, hvs⟩
    · exact .inl hp
    · rcases List.infix_cons_iff.1 hs with hpre | hs
      · cases pat with
        | nil => exact .inl List.nil_infix
        | cons c pat => exact absurd (by simp [(List.cons_prefix_cons.1 hpre).1]) hy
      · exact .inr hs
    · obtain ⟨c, v', rfl⟩ := List.exists_cons_of_ne_nil hv
      exact absurd (by simp [huv, (List.cons_prefix_cons.1 hvs).1]) hy
  · intro hin
    rcases hin with hp | hs
    · exact List.infix_append_of_infix_left hp
    · exact hs.trans ((List.suffix_cons y s).trans (List.suffix_append p _)).isInfix

/-- No proper prefix of the pattern is also a suffix of it. -/
def Unbordered (pat : List α) : Prop :=
  ∀ n < pat.length, 0 < n → pat.take n ≠ pat.drop (pat.length - n)

instance [DecidableEq α] (pat : List α) : Decidable (Unbordered pat) :=
  inferInstanceAs (Decidable (∀ n < pat.length, 0 < n → pat.take n ≠ pat.drop (pat.length - n)))

theorem Unbordered.no_border {pat u : List α} (h : Unbordered pat) (hu : u ≠ [])
    (hlt : u.length < pat.length) (hpre : u <+: pat) (hsuf : u <:+ pat) : False := by
  refine h u.length hlt (List.length_pos_iff.2 hu) ?_
  rw [← List.prefix_iff_eq_take.1 hpre]
  exact List.suffix_iff_eq_drop.1 hsuf

theorem Unbordered.infix_append_dropLast {pat p : List α} (h : Unbordered pat) :
    pat <:+: p ++ pat.dropLast ↔ pat <:+: p := by
  refine ⟨fun hin => ?_, List.infix_append_of_infix_left⟩
  rcases List.infix_append_iff_ne_nil.1 hin with hp | hd | ⟨u, v, hu, hv, huv, -, hvd⟩
  · exact hp
  · have hlen := hd.length_le
    have hnil : pat = [] := by
      rw [List.length_dropLast] at hlen
      exact List.length_eq_zero_iff.1 (by omega)
    exact hnil ▸ List.nil_infix
  · have hlen : v.length < pat.length := by
      have := List.length_pos_iff.2 hu
      rw [huv, List.length_append]
      omega
    exact (h.no_border hv hlen (hvd.trans (List.dropLast_prefix pat))
      ⟨u, huv.symm⟩).elim

variable [DecidableEq α]

/-- The text before and after the first occurrence of `pat`, when there is one. -/
def cut (pat s : List α) : Option (List α × List α) := s.dropInfix? pat

theorem cut_eq_some_iff {pat s p t : List α} :
    cut pat s = some (p, t) ↔
      s = p ++ pat ++ t ∧ ∀ p' t', s = p' ++ pat ++ t' → p.length ≤ p'.length := by
  rw [cut, List.dropInfix?_eq_some_iff]
  constructor
  · rintro ⟨⟨i, hs, hi⟩, hleast⟩
    obtain rfl := eq_of_beq hi
    exact ⟨hs, fun p' t' h => hleast p' i t' h BEq.rfl⟩
  · rintro ⟨hs, hleast⟩
    refine ⟨⟨pat, hs, BEq.rfl⟩, fun p' i t' h hi => ?_⟩
    obtain rfl := eq_of_beq hi
    exact hleast p' t' h

theorem cut_eq_none_iff {pat s : List α} : cut pat s = none ↔ ¬ pat <:+: s := by
  constructor
  · rintro h ⟨p, t, hs⟩
    have hex : ∃ n, ∃ p t, s = p ++ pat ++ t ∧ p.length = n := ⟨_, p, t, hs.symm, rfl⟩
    classical
    obtain ⟨p₀, t₀, hs₀, hn⟩ := Nat.find_spec hex
    have hcut : cut pat s = some (p₀, t₀) := cut_eq_some_iff.2
      ⟨hs₀, fun p' t' h' => hn ▸ Nat.find_min' hex ⟨p', t', h', rfl⟩⟩
    rw [h] at hcut
    contradiction
  · intro h
    cases hc : cut pat s with
    | none => rfl
    | some r =>
      obtain ⟨p, t⟩ := r
      exact absurd ⟨p, t, (cut_eq_some_iff.1 hc).1.symm⟩ h

theorem exists_cut_of_infix {pat s : List α} (h : pat <:+: s) :
    ∃ p t, cut pat s = some (p, t) := by
  cases hc : cut pat s with
  | none => exact absurd h (cut_eq_none_iff.1 hc)
  | some r => exact ⟨r.1, r.2, rfl⟩

/-- A visible occurrence is the first one exactly when none ends inside it or before it. -/
theorem cut_append_iff {pat p t : List α} (hne : pat ≠ []) :
    cut pat (p ++ pat ++ t) = some (p, t) ↔ ¬ pat <:+: p ++ pat.dropLast := by
  have hlast : pat = pat.dropLast ++ [pat.getLast hne] :=
    (List.dropLast_append_getLast hne).symm
  have hpos : 0 < pat.length := List.length_pos_iff.2 hne
  rw [cut_eq_some_iff]
  constructor
  · rintro ⟨-, hleast⟩ ⟨u, v, huv⟩
    have hlen := congrArg List.length huv
    have hocc : p ++ pat ++ t = u ++ pat ++ (v ++ pat.getLast hne :: t) := by
      calc p ++ pat ++ t = p ++ pat.dropLast ++ pat.getLast hne :: t := by
            conv_lhs => rw [hlast]
            simp
        _ = u ++ pat ++ (v ++ pat.getLast hne :: t) := by rw [← huv]; simp
    have hle := hleast u _ hocc
    simp only [List.length_append, List.length_dropLast] at hlen
    omega
  · intro hno
    refine ⟨rfl, fun u v huv => ?_⟩
    by_contra hlt
    -- an earlier occurrence ends before the last symbol of the visible one
    have hu : u ++ pat <+: p ++ pat ++ t := ⟨v, huv.symm⟩
    have hp : p ++ pat.dropLast <+: p ++ pat ++ t := by
      rw [List.append_assoc]
      exact (List.prefix_append_right_inj p).2
        ((List.dropLast_prefix pat).trans (List.prefix_append pat t))
    have hshort : (u ++ pat).length ≤ (p ++ pat.dropLast).length := by
      simp only [List.length_append, List.length_dropLast]
      omega
    have hin := List.prefix_of_prefix_length_le hu hp hshort
    exact hno ((List.suffix_append u pat).isInfix.trans hin.isInfix)

theorem cut_append_left {pat t : List α} (hne : pat ≠ []) : cut pat (pat ++ t) = some ([], t) := by
  have hno : ¬ pat <:+: [] ++ pat.dropLast := by
    intro hin
    have hlen := hin.length_le
    have hpos := List.length_pos_iff.2 hne
    simp only [List.nil_append, List.length_dropLast] at hlen
    omega
  exact (cut_append_iff hne).2 hno

theorem cut_append_of_not_mem {x : α} {q p s : List α} (hx : x ∉ p) :
    cut (x :: q) (p ++ s) = (cut (x :: q) s).map fun r => (p ++ r.1, r.2) := by
  cases hc : cut (x :: q) s with
  | none =>
    have habs := cut_eq_none_iff.1 hc
    exact cut_eq_none_iff.2 fun hin => habs ((cons_infix_append_iff hx).1 hin)
  | some r =>
    obtain ⟨u, v⟩ := r
    obtain ⟨hs, -⟩ := cut_eq_some_iff.1 hc
    rw [hs] at hc ⊢
    have hno := (cut_append_iff (List.cons_ne_nil x q)).1 hc
    have hcut : cut (x :: q) (p ++ u ++ (x :: q) ++ v) = some (p ++ u, v) := by
      rw [cut_append_iff (List.cons_ne_nil x q), List.append_assoc, cons_infix_append_iff hx]
      exact hno
    simpa using hcut

theorem Unbordered.cut_append {pat p t : List α} (h : Unbordered pat) (hne : pat ≠ [])
    (hp : ¬ pat <:+: p) : cut pat (p ++ pat ++ t) = some (p, t) :=
  (cut_append_iff hne).2 (fun hin => hp (h.infix_append_dropLast.1 hin))

end FirstOccurrence
