import FeaturePlan.Step.Lookup

/-!
What comes of actions that keep compiled patterns. If all that is kept is what the patterns compile to,
then nothing that such an action gives depends on it.
-/
namespace FeaturePlan

/-- Every pattern kept is what its source compiles to. -/
def Matchers.Sound (params : Parameters) (μ : Matchers) : Prop :=
  ∀ id source r, μ.find? id source = some r → Phrase.compile source params = .ok r

theorem Matchers.sound_empty (params : Parameters) : ({} : Matchers).Sound params := by
  intro id source r h
  simp at h

theorem Matchers.Sound.insert {params : Parameters} {μ : Matchers} (h : μ.Sound params) (id : StepId)
    {source : String} {r : Regex} (hr : Phrase.compile source params = .ok r) :
    (μ.insert id source r).Sound params := by
  intro id' source' r' hf
  by_cases hk : (id', source') = (id, source)
  · cases hk
    rw [Matchers.find?_insert_self] at hf
    cases hf
    exact hr
  · refine h id' source' r' ?_
    simpa only [Matchers.find?, Matchers.insert, List.lookup_cons, beq_eq_false_iff_ne.2 hk] using hf

namespace Matching

variable {ε δ α β : Type} {params : Parameters}

def outcome (x : Matching ε α) (μ : Matchers) : Except ε α × Matchers := x.run μ

theorem outcome_bind (x : Matching ε α) (f : α → Matching ε β) (μ : Matchers) :
    (x >>= f).outcome μ =
      match x.outcome μ with
      | (.ok a, μ') => (f a).outcome μ'
      | (.error e, μ') => (.error e, μ') := by
  show (ExceptT.bindCont f (x μ : Except ε α × Matchers).1) (x μ : Except ε α × Matchers).2 = _
  rcases h : (x μ : Except ε α × Matchers) with ⟨_ | a, μ'⟩
  · simp only [outcome, ExceptT.run, h]; rfl
  · simp only [outcome, ExceptT.run, h]; rfl

theorem outcome_adapt (f : ε → δ) (x : Matching ε α) (μ : Matchers) :
    Matching.outcome (x.adapt f) μ = ((x.outcome μ).1.mapError f, (x.outcome μ).2) := by
  show (Except.mapError f (x μ : Except ε α × Matchers).1, (x μ : Except ε α × Matchers).2) = _
  rfl

/-- What comes of the action does not depend on sound patterns kept before, and it keeps no others. -/
def Steady (params : Parameters) (x : Matching ε α) : Prop :=
  ∀ μ : Matchers, μ.Sound params →
    (x.outcome μ).1 = (x.outcome {}).1 ∧ (x.outcome μ).2.Sound params

namespace Steady

theorem pure (a : α) : Steady params (Pure.pure a : Matching ε α) := fun _ h => ⟨rfl, h⟩

theorem throw (e : ε) : Steady params (MonadExcept.throw e : Matching ε α) := fun _ h => ⟨rfl, h⟩

theorem bind {x : Matching ε α} {f : α → Matching ε β} (hx : Steady params x)
    (hf : ∀ a, Steady params (f a)) : Steady params (x >>= f) := by
  intro μ hμ
  obtain ⟨hr, hs⟩ := hx μ hμ
  obtain ⟨-, hs₀⟩ := hx {} (Matchers.sound_empty params)
  rw [outcome_bind, outcome_bind]
  rcases h : x.outcome μ with ⟨r, μ'⟩
  rcases h₀ : x.outcome {} with ⟨r₀, μ₀⟩
  rw [h] at hr hs
  rw [h₀] at hr hs₀
  obtain rfl : r = r₀ := hr
  cases r with
  | error e => exact ⟨rfl, hs⟩
  | ok a => exact ⟨((hf a μ' hs).1).trans ((hf a μ₀ hs₀).1).symm, (hf a μ' hs).2⟩

theorem mapM {f : α → Matching ε β} (hf : ∀ a, Steady params (f a)) (xs : List α) :
    Steady params (xs.mapM f) := by
  induction xs with
  | nil => exact pure []
  | cons x xs ih =>
    rw [List.mapM_cons]
    exact bind (hf x) fun y => bind ih fun ys => pure (y :: ys)

end Steady
end Matching

open Matching

theorem StepDefinition.compiled_phrase_outcome {d : StepDefinition} {source : String}
    (h : d.pattern = .phrase source) (params : Parameters) (μ : Matchers) :
    (d.compiled params).outcome μ =
      match μ.find? d.id source with
      | some r => (.ok r, μ)
      | none =>
        match Phrase.compile source params with
        | .ok r => (.ok r, μ.insert d.id source r)
        | .error fault => (.error (.invalidPattern source fault.message), μ) := by
  unfold StepDefinition.compiled
  rw [h]
  have hget : (get : Matching StepError Matchers).outcome μ = (.ok μ, μ) := rfl
  simp only [outcome_bind, hget]
  cases μ.find? d.id source with
  | some r => rfl
  | none => cases Phrase.compile source params <;> rfl

/-- A pattern is compiled to one expression, whether or not it has been compiled before. -/
theorem StepDefinition.compiled_steady (d : StepDefinition) (params : Parameters) :
    Steady params (d.compiled params) := by
  intro μ hμ
  cases hp : d.pattern with
  | regex source r =>
    unfold StepDefinition.compiled
    rw [hp]
    exact ⟨rfl, hμ⟩
  | phrase source =>
    rw [compiled_phrase_outcome hp, compiled_phrase_outcome hp, Matchers.find?_empty]
    cases hf : μ.find? d.id source with
    | some r => simpa only [hμ _ _ _ hf, true_and] using hμ
    | none =>
      cases hc : Phrase.compile source params with
      | ok r => exact ⟨rfl, hμ.insert d.id hc⟩
      | error fault => exact ⟨rfl, hμ⟩

theorem StepDefinition.matchesText_steady (d : StepDefinition) (params : Parameters) (text : String) :
    Steady params (d.matchesText params text) :=
  (d.compiled_steady params).bind fun r => .pure (r.matchesText text)

namespace StepDefinition

def verdict (d : StepDefinition) (params : Parameters) (text : String) : Except StepError Bool :=
  match d.pattern.compile params with
  | .ok r => .ok (r.matchesText text)
  | .error fault => .error (.invalidPattern d.source fault.message)

theorem verdict_congr {d d' : StepDefinition} (h : d.pattern = d'.pattern) (params : Parameters)
    (text : String) : d.verdict params text = d'.verdict params text := by
  rw [verdict, verdict, StepDefinition.source, StepDefinition.source, h]

theorem matchesText_outcome (d : StepDefinition) {params : Parameters} (text : String) {μ : Matchers}
    (hμ : μ.Sound params) :
    ∃ μ', (d.matchesText params text).outcome μ = (d.verdict params text, μ') ∧ μ'.Sound params := by
  have hfresh : ((d.matchesText params text).outcome {}).1 = d.verdict params text := by
    rw [matchesText, outcome_bind, verdict]
    cases hp : d.pattern with
    | regex source r =>
      unfold compiled
      rw [hp]
      rfl
    | phrase source =>
      have hsource : d.source = source := by rw [StepDefinition.source, hp, Pattern.source]
      rw [compiled_phrase_outcome hp, Matchers.find?_empty, hsource, Pattern.compile]
      cases Phrase.compile source params <;> rfl
  obtain ⟨hresult, hsound⟩ := d.matchesText_steady params text μ hμ
  exact ⟨_, Prod.ext (hresult.trans hfresh) rfl, hsound⟩

end StepDefinition

namespace Lookup

theorem find?_steady (params : Parameters) (step : Gherkin.Step) (definitions : List StepDefinition) :
    Steady params (find? params step definitions) := by
  induction definitions with
  | nil => exact .pure none
  | cons d ds ih =>
    unfold find?
    split
    · refine (d.matchesText_steady params step.text).bind fun matched => ?_
      split
      · exact .pure (some d)
      · exact ih
    · exact ih

theorem resolve_steady (params : Parameters) (definitions : List StepDefinition) (limit : Nat)
    (ctx : Context) (step : Gherkin.Step) :
    Steady params (resolve params definitions limit ctx step) := by
  refine (find?_steady params step definitions).bind fun found => ?_
  cases found with
  | none => exact .throw _
  | some d => exact .pure d

end Lookup
end FeaturePlan
