import FeaturePlan.Plan.Assembly
import FeaturePlan.Proofs.Step.Matching

/-!
Runs of an assembly. A run ends in a value with a state, or in an error, and in either case with the
patterns kept by then; `Ensures` says what holds at each end. Sequences and loops are reasoned about
without being unfolded.
-/
namespace FeaturePlan
namespace Plan

variable {α β : Type} {s : Assembly} {μ : Matchers}

/-- A run from a state and kept patterns meets one of two conditions: the first one if it succeeds, the
second one if it fails. -/
def Ensures (x : Assembling α) (s : Assembly) (μ : Matchers)
    (onValue : α → Assembly → Matchers → Prop) (onError : PlanError → Matchers → Prop) : Prop :=
  match Matching.outcome (x.run s) μ with
  | (.ok (a, s'), μ') => onValue a s' μ'
  | (.error e, μ') => onError e μ'

namespace Ensures

variable {x : Assembling α} {Q Q' : α → Assembly → Matchers → Prop} {E E' : PlanError → Matchers → Prop}

theorem mono (h : Ensures x s μ Q E) (hQ : ∀ a s' μ', Q a s' μ' → Q' a s' μ')
    (hE : ∀ e μ', E e μ' → E' e μ') : Ensures x s μ Q' E' := by
  unfold Ensures at h ⊢
  split
  · next he =>
    rw [he] at h
    exact hQ _ _ _ h
  · next he =>
    rw [he] at h
    exact hE _ _ h

theorem pure {a : α} (h : Q a s μ) : Ensures (Pure.pure a) s μ Q E := h

theorem bind {f : α → Assembling β} {Q : β → Assembly → Matchers → Prop}
    (h : Ensures x s μ (fun a s' μ' => Ensures (f a) s' μ' Q E) E) : Ensures (x >>= f) s μ Q E := by
  unfold Ensures at h ⊢
  rw [StateT.run_bind, Matching.outcome_bind]
  split at h
  · next he => simpa only [he] using h
  · next he => simpa only [he] using h

theorem map {f : α → β} {Q : β → Assembly → Matchers → Prop}
    (h : Ensures x s μ (fun a s' μ' => Q (f a) s' μ') E) : Ensures (f <$> x) s μ Q E := by
  rw [map_eq_pure_bind]
  exact bind h

theorem mapM {f : α → Assembling β} {xs : List α} (I : List α → List β → Assembly → Matchers → Prop)
    (start : I [] [] s μ)
    (step : ∀ before x after ys s μ, xs = before ++ x :: after → I before ys s μ →
      Ensures (f x) s μ (fun y => I (before ++ [x]) (ys ++ [y])) E) :
    Ensures (xs.mapM f) s μ (I xs) E := by
  have general : ∀ rest before ys s μ, xs = before ++ rest → I before ys s μ →
      Ensures (rest.mapM f) s μ (fun zs => I xs (ys ++ zs)) E := by
    intro rest
    induction rest with
    | nil =>
      intro before ys s μ hxs h
      rw [List.append_nil] at hxs
      subst hxs
      simpa using Ensures.pure (by simpa using h)
    | cons x rest ih =>
      intro before ys s μ hxs h
      rw [List.mapM_cons]
      refine bind ((step before x rest ys s μ hxs h).mono ?_ fun _ _ he => he)
      intro y s' μ' hy
      refine bind ((ih (before ++ [x]) (ys ++ [y]) s' μ' (by simp [hxs]) hy).mono ?_ fun _ _ he => he)
      intro zs s'' μ'' hzs
      exact Ensures.pure (by simpa using hzs)
  simpa using general xs [] [] s μ rfl start

end Ensures

theorem mapM_mapM_flatten {γ : Type} (groups : List γ) (members : γ → List α) (f : α → Assembling β) :
    (do let ys ← groups.mapM fun g => (members g).mapM f
        return ys.flatten) = (groups.flatMap members).mapM f := by
  induction groups with
  | nil => simp
  | cons g gs ih =>
    rw [List.flatMap_cons, List.mapM_append, ← ih, List.mapM_cons]
    simp

end Plan
end FeaturePlan
