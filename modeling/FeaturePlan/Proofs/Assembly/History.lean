import FeaturePlan.Proofs.Assembly.Agreement
import FeaturePlan.Settings

/-!
Plans made one after the other against one blueprint. The patterns that are compiled for a plan are kept for
the next ones, also if the plan fails halfway; yet every plan comes out as if it were the first, since all
that is kept is what the patterns compile to.
-/
namespace FeaturePlan
namespace Plan

/-- Plans documents in order, each with settings of its own. What was compiled for one is kept for the
next. -/
def planAll (b : Blueprint) (requests : List (Settings × Gherkin.Document)) :
    StateM Matchers (List (Except PlanError TestPlan)) :=
  requests.mapM fun request => (ofDocument request.1.suggestionLimit request.2 b).run

theorem bisimulation_eq : Bisimulation Eq where
  candidates := by
    rintro s _ key rfl
    exact ⟨rfl, rfl⟩
  rules := by
    rintro s _ name rfl
    exact ⟨rfl, rfl⟩
  byId := by
    rintro s _ rfl
    rfl
  byName := by
    rintro s _ rfl
    rfl
  add := by
    rintro s _ e rfl
    rfl

theorem InStep.steady {α : Type} {params : Parameters} {x : Assembling α} (h : InStep Eq params x)
    (s : Assembly) : Matching.Steady params (x.run s) := by
  intro μ hμ
  obtain ⟨hend, hsound, -⟩ := h s s μ {} rfl hμ (Matchers.sound_empty params)
  refine ⟨?_, hsound⟩
  generalize (Matching.outcome (x.run s) μ).1 = end₁ at hend
  generalize (Matching.outcome (x.run s) {}).1 = end₂ at hend
  cases hend with
  | value a hs => rw [hs]
  | error e => rfl

theorem assemble_steady (m : Materials) : Matching.Steady m.parameters (assemble m) := by
  refine ((bisimulation_eq.assembleElements m).steady (.start m.candidates)).bind fun ⟨elements, s⟩ => ?_
  dsimp only
  split
  · exact .bind (.throw _) fun _ => .pure _
  · exact .pure _

/-- Unless the feature scope is missing or a scope stands in no feature, a plan is assembled from the
candidates of the feature. -/
theorem ofDocument_refused_or_assembled (limit : Nat) (d : Gherkin.Document) (b : Blueprint) :
    (∃ e, (∀ cause, e ≠ .identity cause) ∧ ofDocument limit d b = throw e) ∨
      ∃ feature cs, b.candidates = .ok cs ∧
        ofDocument limit d b = assemble (.ofFeature d feature cs b.parameters limit) := by
  unfold ofDocument
  cases hcs : b.candidates with
  | error e => exact .inl ⟨.scope e, nofun, rfl⟩
  | ok cs =>
    simp only [pure_bind]
    split
    · next feature hfeature => exact .inr ⟨feature, cs, rfl, rfl⟩
    · exact .inl ⟨.pairing _, nofun, rfl⟩

theorem ofDocument_cases (limit : Nat) (d : Gherkin.Document) (b : Blueprint) :
    (∃ e, ofDocument limit d b = throw e) ∨
      ∃ feature cs, b.candidates = .ok cs ∧
        ofDocument limit d b = assemble (.ofFeature d feature cs b.parameters limit) :=
  (ofDocument_refused_or_assembled limit d b).imp_left fun ⟨e, _, he⟩ => ⟨e, he⟩

theorem ofDocument_steady (limit : Nat) (d : Gherkin.Document) (b : Blueprint) :
    Matching.Steady b.parameters (ofDocument limit d b) := by
  rcases ofDocument_cases limit d b with ⟨e, he⟩ | ⟨feature, cs, -, he⟩
  · rw [he]
    exact .throw e
  · rw [he]
    exact assemble_steady (.ofFeature d feature cs b.parameters limit)

theorem run_planAll {b : Blueprint} (requests : List (Settings × Gherkin.Document)) {μ : Matchers}
    (hμ : μ.Sound b.parameters) :
    ((planAll b requests).run μ).1 =
        requests.map (fun request => ((ofDocument request.1.suggestionLimit request.2 b).outcome {}).1) ∧
      ((planAll b requests).run μ).2.Sound b.parameters := by
  induction requests generalizing μ with
  | nil => exact ⟨rfl, hμ⟩
  | cons request requests ih =>
    obtain ⟨hresult, hsound⟩ := ofDocument_steady request.1.suggestionLimit request.2 b μ hμ
    obtain ⟨hresults, hkept⟩ := ih hsound
    rw [planAll, run_mapM_cons, List.map_cons, ← hresult, ← hresults]
    exact ⟨rfl, hkept⟩

/-- Whatever was planned before, and whether it succeeded, a plan comes out as against a blueprint of which no
pattern was ever compiled. -/
theorem planAll_independent (b : Blueprint) (requests : List (Settings × Gherkin.Document)) :
    ((planAll b requests).run {}).1 =
        requests.map (fun request => ((ofDocument request.1.suggestionLimit request.2 b).outcome {}).1) ∧
      ((planAll b requests).run {}).2.Sound b.parameters :=
  run_planAll requests (Matchers.sound_empty b.parameters)

end Plan
end FeaturePlan
