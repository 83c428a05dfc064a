import FeaturePlan.Proofs.Assembly.History
import FeaturePlan.Proofs.Assembly.Places
import FeaturePlan.Proofs.Scope.Listing
import FeaturePlan.Proofs.Step.Decision

/-!
How the steps of executions are resolved. An execution has the steps of the backgrounds before its own, and
each of them has the nearest definition on the way from its scope up to the root.
-/
namespace FeaturePlan

def Origin.steps : Origin → List Gherkin.Step
  | .scenario s => s.steps
  | .example row => row.steps

def Gherkin.Node.origins : Gherkin.Node → List Origin
  | .scenario s => [.scenario s]
  | .outline o => o.examples.map .example

/-- An execution of a node, which may stand in a rule: there is one way up from its scope, and on it lie the
definitions of its steps. -/
structure Execution.Resolved (b : Blueprint) (d : Gherkin.Document)
    (place : Option Gherkin.Rule × Gherkin.Node) (e : Execution) : Prop where
  origin : e.origin ∈ place.2.origins
  written : e.gherkinSteps = (d.background.map (·.steps)).getD [] ++
    ((place.1.bind (·.background)).map (·.steps)).getD [] ++ e.origin.steps
  resolved : ∃ chain, (∀ other, b.Lineage e.scope other ↔ other = chain) ∧
    List.Forall₂ (b.Nearest chain) e.gherkinSteps e.steps

namespace Plan

section Drafts

variable {m : Materials} {rule : Option PairedRule} {c : Candidate} {n : Gherkin.Node} {d : Draft}

theorem origin_of_mem_drafts (h : d ∈ drafts m rule c n) :
    d.execution.origin ∈ n.origins ∧
      d.execution.gherkinSteps = withBackgrounds m rule d.execution.origin.steps := by
  rcases mem_drafts_cases h with ⟨s, rfl, rfl⟩ | ⟨o, g, row, cells, rfl, hg, hrow, rfl⟩
  · exact ⟨List.mem_singleton.2 rfl, rfl⟩
  · have hgrouped : row ∈ groupedExamples o :=
      List.mem_flatMap.2 ⟨g, hg, List.mem_map.2 ⟨(row, cells), hrow, rfl⟩⟩
    exact ⟨List.mem_map.2 ⟨row, (mem_groupedExamples.1 hgrouped).1, rfl⟩, rfl⟩

theorem withBackgrounds_eq (m : Materials) (rule : Option PairedRule) (steps : List Gherkin.Step) :
    withBackgrounds m rule steps = (m.document.background.map (·.steps)).getD [] ++
      (((rule.map PairedRule.rule).bind (·.background)).map (·.steps)).getD [] ++ steps := by
  cases rule <;> rfl

theorem first_of_resolves {steps : List StepDefinition} (h : Resolves m c d steps) :
    List.Forall₂ (fun step definition => ∃ before after, c.steps = before ++ definition :: after ∧
      definition.Defines m.parameters step ∧ ∀ d' ∈ before, ¬ d'.Defines m.parameters step)
      d.execution.gherkinSteps steps := by
  have hsound := Matchers.sound_empty m.parameters
  have hsteps := Matching.forall₂_of_outcome_mapM
    (Lookup.resolve_steady m.parameters c.steps m.limit d.context) hsound h
  refine hsteps.imp fun step definition hresolve => ?_
  obtain ⟨hdefines, before, after, hsplit, hbefore⟩ := (Lookup.resolve_eq_ok_iff hsound definition).1 hresolve
  refine ⟨before, after, hsplit, hdefines, fun d' hd' hdefines' => ?_⟩
  exact (hbefore d' hd' hdefines'.1).not_matches hdefines'.2

end Drafts

section Documents

variable {b : Blueprint} {limit : Nat} {d : Gherkin.Document} {μ : Matchers}

theorem resolved_of_settled (h : b.Grounded) {cs : List Candidate} (hcs : b.candidates = .ok cs)
    {feature : Scope} {rule : Option PairedRule} {c : Candidate} (hc : c ∈ cs) {n : Gherkin.Node}
    {draft : Draft} (hdraft : draft ∈ drafts (.ofFeature d feature cs b.parameters limit) rule c n)
    {e : Execution} (he : Settled (.ofFeature d feature cs b.parameters limit) True c draft e) :
    e.Resolved b d (rule.map PairedRule.rule, n) := by
  obtain ⟨steps, rfl, hresolves⟩ := he
  obtain ⟨horigin, hwritten⟩ := origin_of_mem_drafts hdraft
  obtain ⟨chain, hchain, hsteps⟩ := h.toRooted.lineage_of_mem_candidates hcs hc
  refine ⟨horigin, hwritten.trans (withBackgrounds_eq _ rule _), chain, fun other => ?_, ?_⟩
  · have hscope : (draft.complete steps).scope = c.scope :=
      congrArg Candidate.scope (candidate_of_mem_drafts hdraft)
    rw [hscope]
    exact ⟨fun hother => Blueprint.lineage_unique h.toRooted hother hchain, fun hother => hother ▸ hchain⟩
  · refine (first_of_resolves (hresolves trivial)).imp fun step definition hfirst => ?_
    obtain ⟨before, after, hsplit, hdefines, hbefore⟩ := hfirst
    rw [hsteps] at hsplit
    exact h.nearest_of_first hchain hsplit hdefines hbefore

/-- In a plan, whatever program the scopes come of, every execution has the steps of its backgrounds and its
own, each with the nearest definition. -/
theorem ofDocument_resolved {source : IdSource} {program : List Command}
    (hb : (Command.runAll program (.start source)).2.finish = .ok b) (hμ : μ.Sound b.parameters)
    {plan : TestPlan} (h : ((ofDocument limit d b).outcome μ).1 = .ok plan) :
    plan.executions = plan.feature.places.flatMap (·.2.executions) ∧
      List.Forall₂ (fun place made => ∀ e ∈ made.2.executions, e.scope = made.2.scope ∧ e.Resolved b d place)
        d.places plan.feature.places := by
  rcases ofDocument_cases limit d b with ⟨e, he⟩ | ⟨feature, cs, hcs, he⟩
  · rw [he] at h
    cases h
  · rw [he] at h
    have hkept : Kept (.ofFeature d feature cs b.parameters limit) True μ := fun _ => hμ
    obtain ⟨hexecutions, hplaces⟩ := places_of_ok hkept h
    refine ⟨hexecutions, hplaces.imp fun place made hmade e hmem => ?_⟩
    obtain ⟨rule, c, hrule, hc, hplanned⟩ := hmade
    obtain ⟨draft, hdraft, hsettled⟩ := exists_of_mem_right hplanned.settled hmem
    refine ⟨?_, ?_⟩
    · rw [hplanned.scope, Execution.scope, hplanned.candidate e hmem]
    · have hresolved := resolved_of_settled (Blueprint.grounded_of_program hb) hcs
        (List.mem_of_mem_filter hc) hdraft hsettled
      rwa [← hrule] at hresolved

end Documents

section Glances

def glances : List Command :=
  [.entry 0 false (.step (.typed .action) (.phrase "I look") {} none),
    .scope 1 false (.usual .feature "Shop")
      [.entry 2 false (.step .and (.phrase "I look") {} none),
        .entry 3 false (.step (.typed .action) (.phrase "I look") {} none),
        .scope 4 false (.usual .scenario "Browse")
          [.entry 5 false (.step (.typed .outcome) (.phrase "I look") {} none)] none]
      none]

def look (line : Nat) : Gherkin.Step where
  keyword := "When"
  type := .action
  conjunction := false
  text := "I look"
  line := line

def glancesDocument : Gherkin.Document where
  keyword := "Feature"
  name := "Shop"
  description := none
  tags := []
  background := some { keyword := "Background", steps := [look 3] }
  elements := [.node (.scenario
    { keyword := "Scenario", name := "Browse", tags := [], steps := [look 6], line := 5 })]
  path := none

theorem glances_resolved : ∃ plan,
    ((ofDocument 5 glancesDocument (.ofProgram glances)).outcome {}).1 = .ok plan ∧
      plan.executions.map (·.steps.map (·.id)) = [[⟨"step-2"⟩, ⟨"step-2"⟩]] ∧
      List.Forall₂ (fun place made => ∀ e ∈ made.2.executions,
        e.scope = made.2.scope ∧ e.Resolved (.ofProgram glances) glancesDocument place)
        glancesDocument.places plan.feature.places := by
  have hok : ((ofDocument 5 glancesDocument (.ofProgram glances)).outcome {}).1.isOk = true := by
    decide +kernel
  obtain ⟨plan, hplan⟩ := exists_ok_of_isOk hok
  have hids : (((ofDocument 5 glancesDocument (.ofProgram glances)).outcome {}).1.toOption.map fun plan =>
      plan.executions.map (·.steps.map (·.id))) = some [[⟨"step-2"⟩, ⟨"step-2"⟩]] := by decide +kernel
  rw [hplan] at hids
  exact ⟨plan, hplan, Option.some.inj hids,
    (ofDocument_resolved (Blueprint.finish_ofProgram glances) (Matchers.sound_empty _) hplan).2⟩

end Glances

end Plan
end FeaturePlan
