import Mathlib.Logic.Basic

/-!
Imperative programs: an `EStateM ε σ α` changes a state and returns a value or stops with an
exception, keeping the state reached so far. The `run` equations compute one run.

`Keeps f p` says that no run of `p`, however it ends, changes the part `f` of the state.

The last part compares two runs.
`Twin R p Q E` reads: from states related by `R`, both runs of `p` return the same value in
states related by `Q`, or both stop with the same exception in states related by `E`.
`Outlasts e p q` reads: unless `p` stops with `e`, a run of `q` from the same state is the same;
so `q` may be `p` with more fuel.
-/

set_option autoImplicit false

namespace Imperative

variable {ε σ α β : Type}

def reading (f : σ → α) : EStateM ε σ α := fun s => .ok (f s) s

@[simp] theorem run_reading (f : σ → α) (s : σ) :
    (reading f : EStateM ε σ α).run s = .ok (f s) s := rfl

theorem run_reading_bind (f : σ → β) (k : β → EStateM ε σ α) (s : σ) :
    (reading f >>= k).run s = (k (f s)).run s := rfl

@[simp] theorem run_pure (a : α) (s : σ) : (pure a : EStateM ε σ α).run s = .ok a s := rfl

@[simp] theorem run_throw (e : ε) (s : σ) :
    (throw e : EStateM ε σ α).run s = .error e s := rfl

@[simp] theorem run_modify (f : σ → σ) (s : σ) :
    (modify f : EStateM ε σ PUnit).run s = .ok ⟨⟩ (f s) := rfl

@[simp] theorem run_tryCatch (p : EStateM ε σ α) (handler : ε → EStateM ε σ α) (s : σ) :
    (tryCatch p handler).run s =
      match p.run s with
      | .ok a t => .ok a t
      | .error e t => (handler e).run t := by
  show EStateM.tryCatch p handler s = _
  unfold EStateM.tryCatch EStateM.run
  cases p s <;> rfl

def endState : EStateM.Result ε σ α → σ
  | .ok _ s => s
  | .error _ s => s

@[simp] theorem endState_ok (a : α) (s : σ) :
    endState (.ok a s : EStateM.Result ε σ α) = s := rfl

@[simp] theorem endState_error (e : ε) (s : σ) :
    endState (.error e s : EStateM.Result ε σ α) = s := rfl

def outcome : EStateM.Result ε σ α → Except ε α
  | .ok a _ => .ok a
  | .error e _ => .error e

theorem outcome_bind_eq_error_iff (p : EStateM ε σ β) (k : β → EStateM ε σ α) (s : σ) (e : ε) :
    outcome ((p >>= k).run s) = .error e ↔ outcome (p.run s) = .error e ∨
      ∃ b t, p.run s = .ok b t ∧ outcome ((k b).run t) = .error e := by
  rw [EStateM.run_bind]
  cases p.run s with
  | error e' t => simp [outcome]
  | ok b t =>
    constructor
    · intro h
      exact .inr ⟨b, t, rfl, h⟩
    · rintro (h | ⟨b', t', heq, h⟩)
      · cases h
      · cases heq
        exact h

theorem outcome_bind_pure (p : EStateM ε σ β) (f : β → α) (s : σ) :
    outcome ((p >>= fun b => pure (f b)).run s) = (outcome (p.run s)).map f := by
  rw [EStateM.run_bind]
  cases p.run s with
  | ok b t => rfl
  | error e t => rfl

theorem outcome_bind_pure_eq_error_iff (p : EStateM ε σ β) (f : β → α) (s : σ) (e : ε) :
    outcome ((p >>= fun b => pure (f b)).run s) = .error e ↔ outcome (p.run s) = .error e := by
  rw [outcome_bind_pure]
  cases outcome (p.run s) with
  | ok b => simp [Except.map]
  | error e' => simp [Except.map]

/-- The state a next run starts in, unless an exception of `ends` has stopped this one. -/
def cameBack (ends : ε → Bool) : EStateM.Result ε σ α → Option σ
  | .ok _ s => some s
  | .error e s => if ends e then none else some s

theorem isSome_cameBack_iff {ends : ε → Bool} {r : EStateM.Result ε σ α} :
    (cameBack ends r).isSome ↔ ∀ e, outcome r = .error e → ends e = false := by
  cases r with
  | ok a s => simp [cameBack, outcome]
  | error e s => simp [cameBack, outcome]

@[simp] theorem except_ok_bind (a : α) (f : α → Except ε β) : (Except.ok a >>= f) = f a := rfl

@[simp] theorem except_error_bind (e : ε) (f : α → Except ε β) :
    (Except.error e >>= f) = .error e := rfl

@[simp] theorem except_pure (a : α) : (pure a : Except ε α) = .ok a := rfl

def Keeps {γ : Type} (f : σ → γ) (p : EStateM ε σ α) : Prop :=
  ∀ s, f (endState (p.run s)) = f s

section Frames

variable {γ : Type} {f : σ → γ}

theorem Keeps.pure (a : α) : Keeps (ε := ε) f (Pure.pure a) := fun _ => rfl

theorem Keeps.throw (e : ε) : Keeps f (throw e : EStateM ε σ α) := fun _ => rfl

theorem Keeps.reading (g : σ → α) : Keeps (ε := ε) f (reading g) := fun _ => rfl

theorem Keeps.modify {g : σ → σ} (h : ∀ s, f (g s) = f s) :
    Keeps f (modify g : EStateM ε σ PUnit) := h

theorem Keeps.endState_bind {k : β → EStateM ε σ α} (hk : ∀ b, Keeps f (k b))
    (p : EStateM ε σ β) (s : σ) : f (endState ((p >>= k).run s)) = f (endState (p.run s)) := by
  rw [EStateM.run_bind]
  cases p.run s with
  | ok b t => exact hk b t
  | error e t => rfl

theorem Keeps.bind {p : EStateM ε σ β} {k : β → EStateM ε σ α} (hp : Keeps f p)
    (hk : ∀ b, Keeps f (k b)) : Keeps f (p >>= k) :=
  fun s => (Keeps.endState_bind hk p s).trans (hp s)

theorem Keeps.ite {c : Prop} [Decidable c] {p q : EStateM ε σ α} (hp : Keeps f p)
    (hq : Keeps f q) : Keeps f (if c then p else q) := by
  split
  · exact hp
  · exact hq

end Frames

inductive SameEnd (Q : α → σ → σ → Prop) (E : σ → σ → Prop) :
    EStateM.Result ε σ α → EStateM.Result ε σ α → Prop where
  | returned {a : α} {s t : σ} : Q a s t → SameEnd Q E (.ok a s) (.ok a t)
  | stopped {e : ε} {s t : σ} : E s t → SameEnd Q E (.error e s) (.error e t)

def Twin (R : σ → σ → Prop) (p : EStateM ε σ α) (Q : α → σ → σ → Prop)
    (E : σ → σ → Prop) : Prop :=
  ∀ s t, R s t → SameEnd Q E (p.run s) (p.run t)

section Rules

variable {R R' E E' : σ → σ → Prop} {p : EStateM ε σ α} {Q Q' : α → σ → σ → Prop}

theorem SameEnd.mono {r r' : EStateM.Result ε σ α} (h : SameEnd Q E r r')
    (hQ : ∀ a s t, Q a s t → Q' a s t) (hE : ∀ s t, E s t → E' s t) :
    SameEnd Q' E' r r' := by
  cases h with
  | returned h => exact .returned (hQ _ _ _ h)
  | stopped h => exact .stopped (hE _ _ h)

theorem Twin.mono (h : Twin R p Q E) (hR : ∀ s t, R' s t → R s t)
    (hQ : ∀ a s t, Q a s t → Q' a s t) (hE : ∀ s t, E s t → E' s t) : Twin R' p Q' E' :=
  fun s t hst => (h s t (hR s t hst)).mono hQ hE

theorem Twin.pure {a : α} (h : ∀ s t, R s t → Q a s t) :
    Twin (ε := ε) R (Pure.pure a) Q E :=
  fun s t hst => .returned (h s t hst)

theorem Twin.throw {e : ε} (h : ∀ s t, R s t → E s t) :
    Twin R (throw e : EStateM ε σ α) Q E :=
  fun s t hst => .stopped (h s t hst)

/-- Sequencing: the second program starts where the first one left both runs. -/
theorem Twin.bind {S : β → σ → σ → Prop} {p : EStateM ε σ β} {k : β → EStateM ε σ α}
    (hp : Twin R p S E) (hk : ∀ b, Twin (S b) (k b) Q E) : Twin R (p >>= k) Q E := by
  intro s t hst
  have h := hp s t hst
  rw [EStateM.run_bind, EStateM.run_bind]
  generalize p.run s = r at h ⊢
  generalize p.run t = r' at h ⊢
  cases h with
  | returned hS => exact hk _ _ _ hS
  | stopped hE => exact .stopped hE

theorem Twin.modify {f : σ → σ} {Q : PUnit → σ → σ → Prop}
    (h : ∀ s t, R s t → Q ⟨⟩ (f s) (f t)) :
    Twin R (modify f : EStateM ε σ PUnit) Q E :=
  fun s t hst => .returned (h s t hst)

theorem Twin.reading {f : σ → α} (h : ∀ s t, R s t → f s = f t ∧ Q (f s) s t) :
    Twin (ε := ε) R (reading f) Q E := by
  intro s t hst
  obtain ⟨hf, hQ⟩ := h s t hst
  rw [run_reading, run_reading, ← hf]
  exact .returned hQ

theorem Twin.bind_reading {f : σ → β} {k : β → EStateM ε σ α}
    (hf : ∀ s t, R s t → f s = f t) (hk : ∀ b, Twin R (k b) Q E) :
    Twin R (Imperative.reading f >>= k) Q E :=
  .bind (S := fun _ => R) (.reading fun s t h => ⟨hf s t h, h⟩) hk

theorem Twin.ite {c : Prop} [Decidable c] {q : EStateM ε σ α}
    (hp : c → Twin R p Q E) (hq : ¬ c → Twin R q Q E) :
    Twin R (if c then p else q) Q E := by
  split
  · rename_i hc
    exact hp hc
  · rename_i hc
    exact hq hc

end Rules

def Outlasts (e : ε) (p q : EStateM ε σ α) : Prop :=
  ∀ s, (∃ t, p.run s = .error e t) ∨ q.run s = p.run s

section Fuel

variable {e : ε} {p q : EStateM ε σ α}

theorem Outlasts.refl (e : ε) (p : EStateM ε σ α) : Outlasts e p p := fun _ => .inr rfl

theorem Outlasts.throw (e : ε) (q : EStateM ε σ α) : Outlasts e (throw e) q :=
  fun s => .inl ⟨s, rfl⟩

theorem Outlasts.bind {p q : EStateM ε σ β} {k l : β → EStateM ε σ α} (hp : Outlasts e p q)
    (hk : ∀ b, Outlasts e (k b) (l b)) : Outlasts e (p >>= k) (q >>= l) := by
  intro s
  rw [EStateM.run_bind, EStateM.run_bind]
  rcases hp s with ⟨t, hstops⟩ | hsame
  · rw [hstops]
    exact .inl ⟨t, rfl⟩
  · rw [hsame]
    cases p.run s with
    | ok b t => exact hk b t
    | error e' t => exact .inr rfl

theorem Outlasts.ite {c : Prop} [Decidable c] {p' q' : EStateM ε σ α} (hp : Outlasts e p q)
    (hp' : Outlasts e p' q') : Outlasts e (if c then p else p') (if c then q else q') := by
  split
  · exact hp
  · exact hp'

end Fuel

end Imperative
