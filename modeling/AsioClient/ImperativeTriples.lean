import AsioClient.ImperativeRuns

/-!
Triples for one run. `Triple P p Q E` reads: from a state in `P` a run of `p` returns a value in
a state as `Q` says, or stops with an exception in a state as `E` says.
-/

set_option autoImplicit false

namespace Imperative

variable {ε σ α β : Type}

/-- What a result says, by the way it ends. -/
def Result (Q : α → σ → Prop) (E : ε → σ → Prop) : EStateM.Result ε σ α → Prop
  | .ok a s => Q a s
  | .error e s => E e s

def Triple (P : σ → Prop) (p : EStateM ε σ α) (Q : α → σ → Prop) (E : ε → σ → Prop) : Prop :=
  ∀ s, P s → Result Q E (p.run s)

variable {P P' : σ → Prop} {p : EStateM ε σ α} {Q Q' : α → σ → Prop} {E E' : ε → σ → Prop}

theorem Result.endState {R : σ → Prop} {r : EStateM.Result ε σ α}
    (h : Result (fun _ => R) (fun _ => R) r) : R (Imperative.endState r) := by
  cases r with
  | ok a t => exact h
  | error e t => exact h

theorem Result.cameBack {R : σ → Prop} {ends : ε → Bool} {r : EStateM.Result ε σ α}
    (h : Result (fun _ => R) (fun _ => R) r) {s : σ} (hback : Imperative.cameBack ends r = some s) :
    R s := by
  cases r with
  | ok a t =>
    obtain rfl := Option.some.inj hback
    exact h
  | error e t =>
    unfold Imperative.cameBack at hback
    dsimp only at hback
    split at hback
    · cases hback
    · obtain rfl := Option.some.inj hback
      exact h

theorem Result.mono {r : EStateM.Result ε σ α} (h : Result Q E r) (hQ : ∀ a s, Q a s → Q' a s)
    (hE : ∀ e s, E e s → E' e s) : Result Q' E' r := by
  cases r with
  | ok a t => exact hQ a t h
  | error e t => exact hE e t h

theorem Triple.mono (h : Triple P p Q E) (hP : ∀ s, P' s → P s) (hQ : ∀ a s, Q a s → Q' a s)
    (hE : ∀ e s, E e s → E' e s) : Triple P' p Q' E' :=
  fun s hs => (h s (hP s hs)).mono hQ hE

theorem Triple.pure {a : α} (h : ∀ s, P s → Q a s) :
    Triple P (Pure.pure a : EStateM ε σ α) Q E := h

theorem Triple.throw {e : ε} (h : ∀ s, P s → E e s) : Triple P (throw e : EStateM ε σ α) Q E := h

theorem Triple.bind_modify {f : σ → σ} {k : PUnit → EStateM ε σ α} (hf : ∀ s, P s → P (f s))
    (hk : ∀ b, Triple P (k b) Q E) : Triple P (modify f >>= k) Q E :=
  fun s hs => hk ⟨⟩ (f s) (hf s hs)

theorem Triple.modify {f : σ → σ} {Q : PUnit → σ → Prop} (h : ∀ s, P s → Q ⟨⟩ (f s)) :
    Triple P (modify f : EStateM ε σ PUnit) Q E := h

theorem Result.bind {R : β → σ → Prop} {p : EStateM ε σ β} {k : β → EStateM ε σ α} {s : σ}
    (hp : Result R E (p.run s)) (hk : ∀ b, Triple (R b) (k b) Q E) :
    Result Q E ((p >>= k).run s) := by
  rw [EStateM.run_bind]
  generalize p.run s = r at hp ⊢
  cases r with
  | ok b t => exact hk b t hp
  | error e t => exact hp

theorem Triple.bind {R : β → σ → Prop} {p : EStateM ε σ β} {k : β → EStateM ε σ α}
    (hp : Triple P p R E) (hk : ∀ b, Triple (R b) (k b) Q E) : Triple P (p >>= k) Q E :=
  fun s hs => (hp s hs).bind hk

theorem Triple.bind_reading {f : σ → β} {k : β → EStateM ε σ α} (hk : ∀ b, Triple P (k b) Q E) :
    Triple P (reading f >>= k) Q E := fun s hs => hk (f s) s hs

theorem Triple.exists {ι : Type} {P : ι → σ → Prop} (h : ∀ i, Triple (P i) p Q E) :
    Triple (fun s => ∃ i, P i s) p Q E := fun s ⟨i, hs⟩ => h i s hs

theorem Triple.ite {c : Prop} [Decidable c] {p' : EStateM ε σ α} (hp : c → Triple P p Q E)
    (hp' : ¬ c → Triple P p' Q E) : Triple P (if c then p else p') Q E := by
  split
  · rename_i hc
    exact hp hc
  · rename_i hc
    exact hp' hc

theorem Triple.tryCatch {handler : ε → EStateM ε σ α} (hp : Triple P p Q E)
    (hh : ∀ e, Triple (E e) (handler e) Q E') : Triple P (tryCatch p handler) Q E' := by
  intro s hs
  have hres := hp s hs
  rw [run_tryCatch]
  generalize p.run s = r at hres ⊢
  cases r with
  | ok a t => exact hres
  | error e t => exact hh e t hres

/-- Whichever way a run of `p` ends, it ends in `P` again. -/
def Preserves (P : σ → Prop) (p : EStateM ε σ α) : Prop := Triple P p (fun _ => P) fun _ => P

theorem Preserves.pure (a : α) : Preserves P (Pure.pure a : EStateM ε σ α) :=
  Triple.pure fun _ hs => hs

theorem Preserves.throw (e : ε) : Preserves P (throw e : EStateM ε σ α) :=
  Triple.throw fun _ hs => hs

theorem Preserves.reading (f : σ → α) : Preserves P (reading f : EStateM ε σ α) :=
  fun _ hs => hs

theorem Preserves.modify {f : σ → σ} (h : ∀ s, P s → P (f s)) :
    Preserves P (modify f : EStateM ε σ PUnit) := Triple.modify h

theorem Preserves.bind {p : EStateM ε σ β} {k : β → EStateM ε σ α} (hp : Preserves P p)
    (hk : ∀ b, Preserves P (k b)) : Preserves P (p >>= k) := Triple.bind hp hk

theorem Preserves.ite {c : Prop} [Decidable c] {p' : EStateM ε σ α} (hp : Preserves P p)
    (hp' : Preserves P p') : Preserves P (if c then p else p') :=
  Triple.ite (fun _ => hp) fun _ => hp'

theorem Preserves.tryCatch {handler : ε → EStateM ε σ α} (hp : Preserves P p)
    (hh : ∀ e, Preserves P (handler e)) : Preserves P (tryCatch p handler) :=
  Triple.tryCatch hp hh

end Imperative
