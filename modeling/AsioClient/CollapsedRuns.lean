import Mathlib.Data.List.Destutter
import Mathlib.Data.List.DropRight
import Mathlib.Data.List.SplitBy
import Mathlib.Data.List.TakeWhile

/-!
Collapsing the runs of a class of symbols: every maximal run of symbols in `p` gives way to its
first symbol, and everything else stays.
-/

set_option autoImplicit false

namespace CollapsedRuns

variable {α : Type} {p : α → Bool}

/-- The first symbol of every group, where neighbours in `p` are grouped and every other symbol
is a group of its own. -/
def firstOfRuns (p : α → Bool) (s : List α) : List α :=
  (s.splitBy fun a b => p a && p b).filterMap List.head?

@[simp] theorem firstOfRuns_nil (p : α → Bool) : firstOfRuns p [] = [] := by
  simp [firstOfRuns]

theorem firstOfRuns_append {s t : List α}
    (h : ∀ a ∈ s.getLast?, ∀ b ∈ t.head?, (p a && p b) = false) :
    firstOfRuns p (s ++ t) = firstOfRuns p s ++ firstOfRuns p t := by
  rw [firstOfRuns, List.splitBy_append h, List.filterMap_append]
  rfl

theorem firstOfRuns_run {a : α} {s : List α} (ha : p a = true) (hs : ∀ b ∈ s, p b = true) :
    firstOfRuns p (a :: s) = [a] := by
  have hall : ∀ b ∈ a :: s, p b = true := by simpa [ha] using hs
  have hchain : (a :: s).IsChain fun x y => (p x && p y) = true := by
    refine (List.pairwise_of_forall_mem_list ?_).isChain
    intro x hx y hy
    simp [hall x hx, hall y hy]
  rw [firstOfRuns, List.splitBy_of_isChain (List.cons_ne_nil a s) hchain]
  rfl

theorem not_head_dropWhile (p : α → Bool) (s : List α) :
    ∀ b ∈ (s.dropWhile p).head?, p b = false := by
  intro b hb
  have hhead := List.head?_dropWhile_not p s
  rw [Option.mem_def.1 hb] at hhead
  simpa using hhead

theorem firstOfRuns_cons_run {a : α} (ha : p a = true) (s : List α) :
    firstOfRuns p (a :: s) = a :: firstOfRuns p (s.dropWhile p) := by
  have hsplit : a :: s = a :: s.takeWhile p ++ s.dropWhile p := by simp
  have hcut : ∀ x ∈ (a :: s.takeWhile p).getLast?, ∀ b ∈ (s.dropWhile p).head?,
      (p x && p b) = false := by
    intro x _ b hb
    simp [not_head_dropWhile p s b hb]
  rw [hsplit, firstOfRuns_append hcut,
    firstOfRuns_run ha (fun b hb => List.all_eq_true.1 List.all_takeWhile b hb)]
  rfl

theorem firstOfRuns_cons_of_not {a : α} (ha : p a = false) (s : List α) :
    firstOfRuns p (a :: s) = a :: firstOfRuns p s := by
  have hcut : ∀ x ∈ [a].getLast?, ∀ b ∈ s.head?, (p x && p b) = false := by
    simp [ha]
  have hsingle : firstOfRuns p [a] = [a] := rfl
  rw [← List.singleton_append, firstOfRuns_append hcut, hsingle]
  rfl

theorem firstOfRuns_append_cons {a : α} (ha : p a = false) (s t : List α) :
    firstOfRuns p (s ++ a :: t) = firstOfRuns p s ++ a :: firstOfRuns p t := by
  have hcut : ∀ x ∈ s.getLast?, ∀ b ∈ (a :: t).head?, (p x && p b) = false := by
    simp [ha]
  rw [firstOfRuns_append hcut, firstOfRuns_cons_of_not ha]

@[elab_as_elim]
theorem runs_induction (p : α → Bool) {motive : List α → Prop} (nil : motive [])
    (run : ∀ a s, p a = true → motive (s.dropWhile p) → motive (a :: s))
    (other : ∀ a s, p a = false → motive s → motive (a :: s)) (s : List α) : motive s := by
  induction hn : s.length using Nat.strong_induction_on generalizing s with
  | h n ih =>
    cases s with
    | nil => exact nil
    | cons a s =>
      subst hn
      cases ha : p a with
      | true =>
        have hle := (List.dropWhile_suffix p (l := s)).length_le
        exact run a s ha (ih _ (by simpa using Nat.lt_succ_of_le hle) _ rfl)
      | false => exact other a s ha (ih _ (by simp) _ rfl)

def Apart (p : α → Bool) (a b : α) : Prop := ¬ (p a = true ∧ p b = true)

instance (p : α → Bool) : DecidableRel (Apart p) :=
  fun a b => inferInstanceAs (Decidable (¬ (p a = true ∧ p b = true)))

theorem destutter'_of_run {a : α} (ha : p a = true) (s : List α) :
    s.destutter' (Apart p) a = a :: (s.dropWhile p).destutter (Apart p) := by
  induction s with
  | nil => rfl
  | cons b s ih =>
    cases hb : p b with
    | true =>
      have hnot : ¬ Apart p a b := by simp [Apart, ha, hb]
      rw [List.destutter'_cons_neg _ hnot, ih, List.dropWhile_cons_of_pos hb]
    | false =>
      have hapart : Apart p a b := by simp [Apart, hb]
      rw [List.destutter'_cons_pos _ hapart, List.dropWhile_cons_of_neg (by simp [hb])]
      rfl

/-- Keeping the first symbol of every run is dropping each symbol that is in one run with the
last one kept. -/
theorem firstOfRuns_eq_destutter (p : α → Bool) (s : List α) :
    firstOfRuns p s = s.destutter (Apart p) := by
  induction s using runs_induction p with
  | nil => simp
  | run a s ha ih => rw [firstOfRuns_cons_run ha, ih, List.destutter_cons', destutter'_of_run ha]
  | other a s ha ih =>
    rw [firstOfRuns_cons_of_not ha, ih, List.destutter_cons']
    cases s with
    | nil => rfl
    | cons b s =>
      have hapart : Apart p a b := by simp [Apart, ha]
      rw [List.destutter'_cons_pos _ hapart]
      rfl

theorem firstOfRuns_sublist (p : α → Bool) (s : List α) : List.Sublist (firstOfRuns p s) s := by
  rw [firstOfRuns_eq_destutter]
  exact List.destutter_sublist _ s

theorem isChain_firstOfRuns (p : α → Bool) (s : List α) : (firstOfRuns p s).IsChain (Apart p) := by
  rw [firstOfRuns_eq_destutter]
  exact List.isChain_destutter _ s

theorem firstOfRuns_eq_self_iff {s : List α} : firstOfRuns p s = s ↔ s.IsChain (Apart p) := by
  rw [firstOfRuns_eq_destutter]
  exact List.destutter_eq_self_iff _ s

/-- What survives of the symbols in `p`: those with none right before them. -/
theorem mem_firstOfRuns_iff {c : α} {s : List α} (hc : p c = true) :
    c ∈ firstOfRuns p s ↔ ∃ u v, s = u ++ c :: v ∧ ∀ a ∈ u.getLast?, p a = false := by
  constructor
  · induction s using runs_induction p with
    | nil => simp
    | run a s ha ih =>
      intro hmem
      rw [firstOfRuns_cons_run ha, List.mem_cons] at hmem
      rcases hmem with rfl | hmem
      · exact ⟨[], s, rfl, by simp⟩
      · obtain ⟨u, v, hs, hlast⟩ := ih hmem
        have hu : u ≠ [] := by
          rintro rfl
          have hfirst := not_head_dropWhile p s c (by simp [hs])
          rw [hc] at hfirst
          cases hfirst
        refine ⟨a :: s.takeWhile p ++ u, v, ?_, ?_⟩
        · rw [List.append_assoc, ← hs]
          simp
        · rwa [List.getLast?_append_of_ne_nil _ hu]
    | other a s ha ih =>
      intro hmem
      rw [firstOfRuns_cons_of_not ha, List.mem_cons] at hmem
      rcases hmem with rfl | hmem
      · rw [hc] at ha
        cases ha
      · obtain ⟨u, v, rfl, hlast⟩ := ih hmem
        refine ⟨a :: u, v, rfl, ?_⟩
        cases u with
        | nil => simpa using ha
        | cons b u => simpa using hlast
  · rintro ⟨u, v, rfl, hlast⟩
    have hcut : ∀ a ∈ u.getLast?, ∀ b ∈ (c :: v).head?, (p a && p b) = false := by
      intro a ha b _
      simp [hlast a ha]
    rw [firstOfRuns_append hcut, firstOfRuns_cons_run hc]
    simp

def stretches (p : α → Bool) (s : List α) : List (List α) := (s.splitOnP p).filter (· ≠ [])

theorem stretches_append_cons {a : α} (ha : p a = true) (s t : List α) :
    stretches p (s ++ a :: t) = stretches p s ++ stretches p t := by
  simp [stretches, List.splitOnP_append_cons _ _ ha]

theorem stretches_cons {a : α} (ha : p a = true) (s : List α) :
    stretches p (a :: s) = stretches p s := by
  simpa [stretches] using stretches_append_cons ha [] s

theorem stretches_dropWhile (p : α → Bool) (s : List α) :
    stretches p (s.dropWhile p) = stretches p s := by
  induction s with
  | nil => rfl
  | cons a s ih =>
    cases ha : p a with
    | true => rw [List.dropWhile_cons_of_pos ha, ih, stretches_cons ha]
    | false => rw [List.dropWhile_cons_of_neg (by simp [ha])]

theorem stretches_append_firstOfRuns (p : α → Bool) (x s : List α) :
    stretches p (x ++ firstOfRuns p s) = stretches p (x ++ s) := by
  induction s using runs_induction p generalizing x with
  | nil => simp
  | run a s ha ih =>
    have hrest := ih []
    rw [List.nil_append, List.nil_append, stretches_dropWhile] at hrest
    rw [firstOfRuns_cons_run ha, stretches_append_cons ha, stretches_append_cons ha, hrest]
  | other a s ha ih =>
    rw [firstOfRuns_cons_of_not ha, List.append_cons, ih, ← List.append_cons]

theorem stretches_firstOfRuns (p : α → Bool) (s : List α) :
    stretches p (firstOfRuns p s) = stretches p s :=
  stretches_append_firstOfRuns p [] s

def EndsInRun (p : α → Bool) (s : List α) : Prop := ∃ a ∈ s.getLast?, p a = true

instance (p : α → Bool) (s : List α) : Decidable (EndsInRun p s) :=
  decidable_of_iff (s.getLast?.any p = true) (by
    unfold EndsInRun
    cases s.getLast? with
    | none => simp
    | some a => simp)

theorem endsInRun_append {s t : List α} (ht : t ≠ []) :
    EndsInRun p (s ++ t) ↔ EndsInRun p t := by
  rw [EndsInRun, EndsInRun, List.getLast?_append_of_ne_nil _ ht]

theorem endsInRun_of_run {s : List α} (hne : s ≠ []) (hs : ∀ b ∈ s, p b = true) :
    EndsInRun p s :=
  ⟨s.getLast hne, List.getLast?_eq_some_getLast hne, hs _ (List.getLast_mem hne)⟩

theorem endsInRun_cons {a : α} {s : List α} (hs : s ≠ []) :
    EndsInRun p (a :: s) ↔ EndsInRun p s :=
  @endsInRun_append _ _ [a] _ hs

theorem endsInRun_cons_run {a : α} (ha : p a = true) (s : List α) :
    EndsInRun p (a :: s) ↔ s.dropWhile p = [] ∨ EndsInRun p (s.dropWhile p) := by
  by_cases hrest : s.dropWhile p = []
  · have hrun : ∀ b ∈ a :: s, p b = true := by
      simpa [ha] using List.dropWhile_eq_nil_iff.1 hrest
    exact iff_of_true (endsInRun_of_run (List.cons_ne_nil a s) hrun) (.inl hrest)
  · have hends : EndsInRun p (a :: s) ↔ EndsInRun p (s.dropWhile p) := by
      conv_lhs => rw [← List.takeWhile_append_dropWhile (p := p) (l := s), ← List.cons_append]
      exact endsInRun_append hrest
    simp [hends, hrest]

theorem firstOfRuns_append_eq (s t : List α) :
    firstOfRuns p (s ++ t) =
      firstOfRuns p s ++ firstOfRuns p (if EndsInRun p s then t.dropWhile p else t) := by
  induction s using runs_induction p with
  | nil => simp [EndsInRun]
  | run a s ha ih =>
    rw [List.cons_append, firstOfRuns_cons_run ha, firstOfRuns_cons_run ha]
    by_cases hrest : s.dropWhile p = []
    · have hends : EndsInRun p (a :: s) := (endsInRun_cons_run ha s).2 (.inl hrest)
      rw [if_pos hends, List.dropWhile_append, hrest]
      simp
    · have hback : (s ++ t).dropWhile p = s.dropWhile p ++ t := by
        simp [List.dropWhile_append, hrest]
      have hends : EndsInRun p (a :: s) ↔ EndsInRun p (s.dropWhile p) := by
        simp [endsInRun_cons_run ha, hrest]
      rw [hback, ih, List.cons_append]
      simp only [hends]
  | other a s ha ih =>
    rw [List.cons_append, firstOfRuns_cons_of_not ha, firstOfRuns_cons_of_not ha, ih,
      List.cons_append]
    have hends : EndsInRun p (a :: s) ↔ EndsInRun p s := by
      cases s with
      | nil => simp [EndsInRun, ha]
      | cons b s => exact endsInRun_cons (List.cons_ne_nil b s)
    simp only [hends]

theorem head?_firstOfRuns (s : List α) : (firstOfRuns p s).head? = s.head? := by
  cases s with
  | nil => simp
  | cons a s =>
    cases ha : p a with
    | true => simp [firstOfRuns_cons_run ha]
    | false => simp [firstOfRuns_cons_of_not ha]

theorem firstOfRuns_eq_nil_iff {s : List α} : firstOfRuns p s = [] ↔ s = [] := by
  rw [← List.head?_eq_none_iff, head?_firstOfRuns, List.head?_eq_none_iff]

theorem dropWhile_eq_self {s : List α} (h : ∀ b ∈ s.head?, p b = false) : s.dropWhile p = s := by
  cases s with
  | nil => rfl
  | cons a s => rw [List.dropWhile_cons_of_neg (by simp [h a rfl])]

theorem dropWhile_firstOfRuns (s : List α) :
    (firstOfRuns p s).dropWhile p = firstOfRuns p (s.dropWhile p) := by
  cases s with
  | nil => simp
  | cons a s =>
    cases ha : p a with
    | true =>
      rw [firstOfRuns_cons_run ha, List.dropWhile_cons_of_pos ha, List.dropWhile_cons_of_pos ha]
      refine dropWhile_eq_self ?_
      rw [head?_firstOfRuns]
      exact not_head_dropWhile p s
    | false =>
      rw [firstOfRuns_cons_of_not ha, List.dropWhile_cons_of_neg (by simp [ha]),
        List.dropWhile_cons_of_neg (by simp [ha]), firstOfRuns_cons_of_not ha]

theorem endsInRun_firstOfRuns (s : List α) : EndsInRun p (firstOfRuns p s) ↔ EndsInRun p s := by
  induction s using runs_induction p with
  | nil => simp
  | run a s ha ih =>
    rw [firstOfRuns_cons_run ha, endsInRun_cons_run ha, endsInRun_cons_run ha,
      dropWhile_firstOfRuns, List.dropWhile_idempotent, firstOfRuns_eq_nil_iff, ih]
  | other a s ha ih =>
    rw [firstOfRuns_cons_of_not ha]
    by_cases hs : s = []
    · simp [hs]
    · rw [endsInRun_cons (mt firstOfRuns_eq_nil_iff.1 hs), ih, endsInRun_cons hs]

theorem firstOfRuns_firstOfRuns (s : List α) :
    firstOfRuns p (firstOfRuns p s) = firstOfRuns p s :=
  firstOfRuns_eq_self_iff.2 (isChain_firstOfRuns p s)

/-- The pieces of a list can be collapsed on their own first. -/
theorem firstOfRuns_of_collapsed (s t : List α) :
    firstOfRuns p (firstOfRuns p s ++ firstOfRuns p t) = firstOfRuns p (s ++ t) := by
  rw [firstOfRuns_append_eq, firstOfRuns_append_eq s t, firstOfRuns_firstOfRuns,
    dropWhile_firstOfRuns]
  simp only [endsInRun_firstOfRuns]
  split
  · rw [firstOfRuns_firstOfRuns]
  · rw [firstOfRuns_firstOfRuns]

end CollapsedRuns
