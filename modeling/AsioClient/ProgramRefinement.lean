import AsioClient.ImperativeRuns
import Mathlib.Data.List.Forall2

/-!
One program over two kinds of state. `Refines R p q Q E` reads: from states related by `R`, a
run of `p` and a run of `q` return the same value in states related by `Q`, or both stop with
the same exception in states related by `E`.

The last part lifts a refinement to runs of several programs, one after the other. Some exceptions
end such a run, as `ends` says; from the others it goes on in the state they leave.
-/

set_option autoImplicit false

namespace Imperative

variable {ε σ τ α β : Type}

inductive SameOutcome (Q : α → σ → τ → Prop) (E : σ → τ → Prop) :
    EStateM.Result ε σ α → EStateM.Result ε τ α → Prop where
  | returned {a : α} {s : σ} {t : τ} : Q a s t → SameOutcome Q E (.ok a s) (.ok a t)
  | stopped {e : ε} {s : σ} {t : τ} : E s t → SameOutcome Q E (.error e s) (.error e t)

def Refines (R : σ → τ → Prop) (p : EStateM ε σ α) (q : EStateM ε τ α)
    (Q : α → σ → τ → Prop) (E : σ → τ → Prop) : Prop :=
  ∀ s t, R s t → SameOutcome Q E (p.run s) (q.run t)

variable {R R' E E' : σ → τ → Prop} {p : EStateM ε σ α} {q : EStateM ε τ α}
  {Q Q' : α → σ → τ → Prop}

theorem SameOutcome.mono {r : EStateM.Result ε σ α} {r' : EStateM.Result ε τ α}
    (h : SameOutcome Q E r r') (hQ : ∀ a s t, Q a s t → Q' a s t)
    (hE : ∀ s t, E s t → E' s t) : SameOutcome Q' E' r r' := by
  cases h with
  | returned h => exact .returned (hQ _ _ _ h)
  | stopped h => exact .stopped (hE _ _ h)

theorem SameOutcome.outcome_eq {r : EStateM.Result ε σ α} {r' : EStateM.Result ε τ α}
    (h : SameOutcome Q E r r') : outcome r = outcome r' := by
  cases h with
  | returned h => rfl
  | stopped h => rfl

/-- Two programs that are refined by two runs of one program. -/
theorem SameEnd.refined {A : τ → τ → Prop} {B : σ → σ → Prop} {r r' : EStateM.Result ε σ α}
    {v v' : EStateM.Result ε τ α} (h : SameEnd (fun _ => A) A v v')
    (hr : SameOutcome (fun _ => R) R r v) (hr' : SameOutcome (fun _ => R) R r' v')
    (hends : ∀ {s s' t t'}, R s t → R s' t' → A t t' → B s s') :
    SameOutcome (fun _ => B) B r r' := by
  cases h with
  | returned ht =>
    cases hr with
    | returned hs =>
      cases hr' with
      | returned hs' => exact .returned (hends hs hs' ht)
  | stopped ht =>
    cases hr with
    | stopped hs =>
      cases hr' with
      | stopped hs' => exact .stopped (hends hs hs' ht)

theorem Refines.mono (h : Refines R p q Q E) (hR : ∀ s t, R' s t → R s t)
    (hQ : ∀ a s t, Q a s t → Q' a s t) (hE : ∀ s t, E s t → E' s t) : Refines R' p q Q' E' :=
  fun s t hst => (h s t (hR s t hst)).mono hQ hE

theorem Refines.pure {a : α} (h : ∀ s t, R s t → Q a s t) :
    Refines (ε := ε) R (Pure.pure a) (Pure.pure a) Q E :=
  fun s t hst => .returned (h s t hst)

theorem Refines.throw {e : ε} (h : ∀ s t, R s t → E s t) :
    Refines R (throw e : EStateM ε σ α) (throw e : EStateM ε τ α) Q E :=
  fun s t hst => .stopped (h s t hst)

theorem SameOutcome.bind {S : β → σ → τ → Prop} {p : EStateM ε σ β} {q : EStateM ε τ β}
    {k : β → EStateM ε σ α} {l : β → EStateM ε τ α} {s : σ} {t : τ}
    (hp : SameOutcome S E (p.run s) (q.run t))
    (hk : ∀ b s' t', S b s' t' → SameOutcome Q E ((k b).run s') ((l b).run t')) :
    SameOutcome Q E ((p >>= k).run s) ((q >>= l).run t) := by
  rw [EStateM.run_bind, EStateM.run_bind]
  generalize p.run s = r at hp ⊢
  generalize q.run t = r' at hp ⊢
  cases hp with
  | returned hS => exact hk _ _ _ hS
  | stopped hE => exact .stopped hE

theorem Refines.bind {S : β → σ → τ → Prop} {p : EStateM ε σ β} {q : EStateM ε τ β}
    {k : β → EStateM ε σ α} {l : β → EStateM ε τ α} (hp : Refines R p q S E)
    (hk : ∀ b, Refines (S b) (k b) (l b) Q E) : Refines R (p >>= k) (q >>= l) Q E :=
  fun s t hst => (hp s t hst).bind fun b s' t' hS => hk b s' t' hS

theorem Refines.modify {f : σ → σ} {g : τ → τ} {Q : PUnit → σ → τ → Prop}
    (h : ∀ s t, R s t → Q ⟨⟩ (f s) (g t)) :
    Refines R (modify f : EStateM ε σ PUnit) (modify g : EStateM ε τ PUnit) Q E :=
  fun s t hst => .returned (h s t hst)

theorem Refines.ite {c : Prop} [Decidable c] {p' : EStateM ε σ α} {q' : EStateM ε τ α}
    (hp : c → Refines R p q Q E) (hq : ¬ c → Refines R p' q' Q E) :
    Refines R (if c then p else p') (if c then q else q') Q E := by
  split
  · rename_i hc
    exact hp hc
  · rename_i hc
    exact hq hc

theorem Refines.tryCatch {p' : ε → EStateM ε σ α} {q' : ε → EStateM ε τ α}
    (hp : Refines R p q Q E) (hh : ∀ e, Refines E (p' e) (q' e) Q E') :
    Refines R (tryCatch p p') (tryCatch q q') Q E' := by
  intro s t hst
  have h := hp s t hst
  rw [run_tryCatch, run_tryCatch]
  generalize p.run s = r at h ⊢
  generalize q.run t = r' at h ⊢
  cases h with
  | returned hQ => exact .returned hQ
  | stopped hE => exact hh _ _ _ hE

/-- What a run comes to, with what is seen of the state behind it. -/
def observe {ω : Type} (view : σ → ω) (r : EStateM.Result ε σ α) : Except ε α × ω :=
  (outcome r, view (endState r))

def observedRun {ι ω : Type} (exec : σ → ι → EStateM.Result ε σ α) (ends : ε → Bool)
    (view : σ → ω) : σ → List ι → List (Except ε α × ω)
  | _, [] => []
  | s, i :: rest =>
    observe view (exec s i) ::
      match cameBack ends (exec s i) with
      | some t => observedRun exec ends view t rest
      | none => []

section Observed

variable {ι κ ω : Type} {ends : ε → Bool} {view : σ → ω} {view' : τ → ω}
  {exec : σ → ι → EStateM.Result ε σ α} {exec' : τ → κ → EStateM.Result ε τ α}
  {S : ι → κ → Prop}

theorem SameOutcome.cameBack {r : EStateM.Result ε σ α} {r' : EStateM.Result ε τ α}
    (h : SameOutcome (fun _ => R) R r r') :
    Option.Rel R (cameBack ends r) (cameBack ends r') := by
  cases h with
  | returned h => exact .some h
  | @stopped e s t h =>
    unfold Imperative.cameBack
    dsimp only
    cases ends e with
    | true => exact .none
    | false => exact .some h

theorem SameOutcome.observe_eq {r : EStateM.Result ε σ α} {r' : EStateM.Result ε τ α}
    (h : SameOutcome (fun _ => R) R r r') (hview : ∀ s t, R s t → view s = view' t) :
    observe view r = observe view' r' := by
  cases h with
  | returned h => exact congrArg (Prod.mk _) (hview _ _ h)
  | stopped h => exact congrArg (Prod.mk _) (hview _ _ h)

/-- Steps that refine each other make runs in which the same is observed. The states that a step
leaves may have more in common than the next one asks for. -/
theorem observedRun_eq
    (hstep : ∀ s t i j, R s t → S i j → SameOutcome (fun _ => R') R' (exec s i) (exec' t j))
    (hnext : ∀ s t, R' s t → R s t) (hview : ∀ s t, R' s t → view s = view' t) {is : List ι}
    {js : List κ} (hsteps : List.Forall₂ S is js) {s : σ} {t : τ} (hst : R s t) :
    observedRun exec ends view s is = observedRun exec' ends view' t js := by
  induction hsteps generalizing s t with
  | nil => rfl
  | @cons i j is js hij _ ih =>
    have hsame := hstep s t i j hst hij
    have hback : Option.Rel R' (Imperative.cameBack ends (exec s i))
        (Imperative.cameBack ends (exec' t j)) := hsame.cameBack
    unfold observedRun
    rw [hsame.observe_eq hview]
    generalize Imperative.cameBack ends (exec s i) = next at hback ⊢
    generalize Imperative.cameBack ends (exec' t j) = next' at hback ⊢
    cases hback with
    | none => rfl
    | some h => exact congrArg (_ :: ·) (ih (hnext _ _ h))

end Observed

end Imperative
