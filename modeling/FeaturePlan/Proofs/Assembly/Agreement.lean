import FeaturePlan.Proofs.Assembly.Walk

/-!
Two assemblies of one document. They start from states that are alike and with different patterns kept, and
go the same way as long as the states stay alike and the patterns sound: they end in one value with alike
states, or in one error. What is alike is left open; it has to be kept by what the assembly does with its
state, which is to take from a queue and to add an execution.
-/
namespace FeaturePlan
namespace Plan

variable {α β : Type}

/-- Two runs end in one value with related states, or in one error. -/
inductive SameEnd (R : Assembly → Assembly → Prop) :
    Except PlanError (α × Assembly) → Except PlanError (α × Assembly) → Prop
  | value (a : α) {s s' : Assembly} (h : R s s') : SameEnd R (.ok (a, s)) (.ok (a, s'))
  | error (e : PlanError) : SameEnd R (.error e) (.error e)

/-- From related states and with sound patterns kept, two runs end the same, and keep sound patterns. -/
def InStep (R : Assembly → Assembly → Prop) (params : Parameters) (x : Assembling α) : Prop :=
  ∀ s s' μ μ', R s s' → μ.Sound params → μ'.Sound params →
    SameEnd R (Matching.outcome (x.run s) μ).1 (Matching.outcome (x.run s') μ').1 ∧
      (Matching.outcome (x.run s) μ).2.Sound params ∧ (Matching.outcome (x.run s') μ').2.Sound params

namespace InStep

variable {R : Assembly → Assembly → Prop} {params : Parameters}

theorem pure (a : α) : InStep R params (Pure.pure a : Assembling α) :=
  fun _ _ _ _ hR hμ hμ' => ⟨.value a hR, hμ, hμ'⟩

theorem bind {x : Assembling α} {f : α → Assembling β} (hx : InStep R params x)
    (hf : ∀ a, InStep R params (f a)) : InStep R params (x >>= f) := by
  intro s s' μ μ' hR hμ hμ'
  obtain ⟨hend, hsound, hsound'⟩ := hx s s' μ μ' hR hμ hμ'
  rw [StateT.run_bind, StateT.run_bind, Matching.outcome_bind, Matching.outcome_bind]
  rcases h : Matching.outcome (x.run s) μ with ⟨end₁, μ₁⟩
  rcases h' : Matching.outcome (x.run s') μ' with ⟨end₂, μ₂⟩
  rw [h] at hend hsound
  rw [h'] at hend hsound'
  cases hend with
  | value a hR => exact hf a _ _ _ _ hR hsound hsound'
  | error e => exact ⟨.error e, hsound, hsound'⟩

theorem map {x : Assembling α} (f : α → β) (hx : InStep R params x) : InStep R params (f <$> x) := by
  rw [map_eq_pure_bind]
  exact hx.bind fun a => .pure (f a)

theorem mapM {f : α → Assembling β} (hf : ∀ a, InStep R params (f a)) (xs : List α) :
    InStep R params (xs.mapM f) := by
  induction xs with
  | nil => exact .pure []
  | cons x xs ih =>
    rw [List.mapM_cons]
    exact (hf x).bind fun y => ih.bind fun ys => .pure (y :: ys)

end InStep

/-- Related states stay related whatever is taken from their queues, and when an execution is added. Nobody
can tell them apart by that. -/
structure Bisimulation (R : Assembly → Assembly → Prop) : Prop where
  candidates : ∀ s s' key, R s s' → (s.candidates.take key).1 = (s'.candidates.take key).1 ∧
    R { s with candidates := (s.candidates.take key).2 } { s' with candidates := (s'.candidates.take key).2 }
  rules : ∀ s s' name, R s s' → (s.rules.take name).1 = (s'.rules.take name).1 ∧
    R { s with rules := (s.rules.take name).2 } { s' with rules := (s'.rules.take name).2 }
  byId : ∀ s s', R s s' → s.byId = s'.byId
  byName : ∀ s s', R s s' → s.byName = s'.byName
  add : ∀ s s' e, R s s' → R (s.add e) (s'.add e)

namespace Bisimulation

variable {R : Assembly → Assembly → Prop} (hR : Bisimulation R) (m : Materials) {params : Parameters}
include hR

theorem takeCandidate (rule : Option PairedRule) (n : Gherkin.Node) :
    InStep R params (takeCandidate m n.kind n.name rule) := by
  intro s s' μ μ' hs hμ hμ'
  obtain ⟨hfound, hrest⟩ := hR.candidates s s' (placeKey (rule, n)) hs
  rw [takeCandidate_outcome, takeCandidate_outcome]
  rcases h : s.candidates.take (placeKey (rule, n)) with ⟨found, q⟩
  rcases h' : s'.candidates.take (placeKey (rule, n)) with ⟨found', q'⟩
  rw [h, h'] at hfound hrest
  obtain rfl : found = found' := hfound
  cases found with
  | none => exact ⟨.error _, hμ, hμ'⟩
  | some c => exact ⟨.value c hrest, hμ, hμ'⟩

theorem takeRule (r : Gherkin.Rule) : InStep R params (takeRule m r) := by
  intro s s' μ μ' hs hμ hμ'
  obtain ⟨hfound, hrest⟩ := hR.rules s s' (Text.canonical r.name) hs
  rw [takeRule_outcome, takeRule_outcome]
  rcases h : s.rules.take (Text.canonical r.name) with ⟨found, q⟩
  rcases h' : s'.rules.take (Text.canonical r.name) with ⟨found', q'⟩
  rw [h, h'] at hfound hrest
  obtain rfl : found = found' := hfound
  cases found with
  | none =>
    dsimp only
    split
    · exact ⟨.value none hs, hμ, hμ'⟩
    · exact ⟨.error _, hμ, hμ'⟩
  | some scope => exact ⟨.value (some scope) hrest, hμ, hμ'⟩

theorem register (e : Execution) : InStep R params (register e) := by
  intro s s' μ μ' hs hμ hμ'
  rw [register_outcome, register_outcome, hR.byId s s' hs, hR.byName s s' hs]
  refine ⟨?_, hμ, hμ'⟩
  dsimp only
  split_ifs
  · exact .error _
  · exact .error _
  · exact .value () (hR.add s s' e hs)

omit hR in
theorem resolveSteps (c : Candidate) (steps : List Gherkin.Step) (ctx : Lookup.Context) :
    InStep R m.parameters (resolveSteps m c steps ctx) := by
  intro s s' μ μ' hs hμ hμ'
  obtain ⟨hresult, hsound⟩ := resolveAll_steady m c steps ctx μ hμ
  obtain ⟨hresult', hsound'⟩ := resolveAll_steady m c steps ctx μ' hμ'
  rw [← hresult'] at hresult
  rw [resolveSteps_outcome, resolveSteps_outcome]
  rcases h : (resolveAll m c steps ctx).outcome μ with ⟨result, μ₁⟩
  rcases h' : (resolveAll m c steps ctx).outcome μ' with ⟨result', μ₂⟩
  rw [h] at hresult hsound
  rw [h'] at hresult hsound'
  obtain rfl : result = result' := hresult
  cases result with
  | error e => exact ⟨.error _, hsound, hsound'⟩
  | ok definitions => exact ⟨.value definitions hs, hsound, hsound'⟩

theorem settle (c : Candidate) (d : Draft) : InStep R m.parameters (settle m c d) :=
  (resolveSteps m c _ _).bind fun steps =>
    (hR.register (d.complete steps)).bind fun _ => .pure (d.complete steps)

theorem assembleNode (rule : Option PairedRule) (n : Gherkin.Node) :
    InStep R m.parameters (assembleNode m rule n) := by
  cases n with
  | scenario sc =>
    rw [Plan.assembleNode, assembleScenario_eq]
    exact ((hR.takeCandidate m rule (.scenario sc)).bind fun c => hR.settle m c _).map _
  | outline o =>
    rw [Plan.assembleNode, assembleOutline_eq]
    exact ((hR.takeCandidate m rule (.outline o)).bind fun c =>
      (InStep.mapM (hR.settle m c) _).bind fun es => .pure _).map _

theorem assembleElement (e : Gherkin.Element) : InStep R m.parameters (assembleElement m e) := by
  cases e with
  | node n => exact (hR.assembleNode m none n).map _
  | rule r =>
    refine InStep.map _ ((hR.takeRule m r).bind fun scope => ?_)
    cases scope with
    | none => exact (InStep.pure []).bind fun nodes => .pure _
    | some scope => exact (InStep.mapM (hR.assembleNode m _) r.nodes).bind fun nodes => .pure _

theorem assembleElements : InStep R m.parameters (m.document.elements.mapM (Plan.assembleElement m)) :=
  .mapM (hR.assembleElement m) m.document.elements

end Bisimulation

end Plan
end FeaturePlan
