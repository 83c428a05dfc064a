import FeaturePlan.Proofs.Step.Matching
import Mathlib.Data.List.Forall2

/-!
What a definition says of a step, and what a loop gives that keeps compiled patterns: what it gives for every
element alone, whatever patterns were compiled before.
-/
namespace FeaturePlan

namespace StepDefinition

/-- The definition and the step have one type, if neither is a conjunction. -/
def Accepts (d : StepDefinition) (step : Gherkin.Step) : Prop :=
  step.conjunction = true ∨ d.keyword.type? = none ∨ d.keyword.type? = some step.type

/-- The pattern of the definition compiles to an expression that matches the text of the step. -/
def Matches (params : Parameters) (d : StepDefinition) (step : Gherkin.Step) : Prop :=
  ∃ r, d.pattern.compile params = .ok r ∧ r.matchesText step.text = true

def Defines (params : Parameters) (d : StepDefinition) (step : Gherkin.Step) : Prop :=
  d.Accepts step ∧ d.Matches params step

theorem fits_iff (d : StepDefinition) (step : Gherkin.Step) : Lookup.fits step d = true ↔ d.Accepts step := by
  rw [Lookup.fits, StepKeyword.accepts, StepKeyword.suits, Accepts]
  cases d.keyword.type? <;> simp

end StepDefinition

namespace Matching

variable {ε α β : Type} {params : Parameters}

theorem outcome_bind_eq_ok {x : Matching ε α} {f : α → Matching ε β} {μ : Matchers} {b : β}
    (h : ((x >>= f).outcome μ).1 = .ok b) :
    ∃ a μ', x.outcome μ = (.ok a, μ') ∧ ((f a).outcome μ').1 = .ok b := by
  rw [outcome_bind] at h
  split at h
  · next a μ' hx => exact ⟨a, μ', hx, h⟩
  · cases h

theorem outcome_bind_eq_error {x : Matching ε α} {f : α → Matching ε β} {μ : Matchers} {e : ε}
    (h : ((x >>= f).outcome μ).1 = .error e) :
    (x.outcome μ).1 = .error e ∨ ∃ a μ', x.outcome μ = (.ok a, μ') ∧ ((f a).outcome μ').1 = .error e := by
  rw [outcome_bind] at h
  split at h
  · next a μ' hx => exact .inr ⟨a, μ', hx, h⟩
  · next e' μ' hx =>
    cases h
    exact .inl (congrArg Prod.fst hx)

theorem forall₂_of_outcome_mapM {f : α → Matching ε β} (hsteady : ∀ x, Steady params (f x)) {xs : List α} :
    ∀ {ys : List β} {μ : Matchers}, μ.Sound params → ((xs.mapM f).outcome μ).1 = .ok ys →
      List.Forall₂ (fun x y => ((f x).outcome {}).1 = .ok y) xs ys := by
  induction xs with
  | nil =>
    intro ys μ hμ h
    cases h
    exact .nil
  | cons x xs ih =>
    intro ys μ hμ h
    rw [List.mapM_cons] at h
    obtain ⟨y, μ', hy, h⟩ := outcome_bind_eq_ok h
    obtain ⟨zs, μ'', hzs, h⟩ := outcome_bind_eq_ok h
    obtain ⟨hx, hμ'⟩ := hsteady x μ hμ
    rw [hy] at hx hμ'
    cases h
    exact .cons hx.symm (ih hμ' (congrArg Prod.fst hzs))

end Matching

end FeaturePlan
