import FeaturePlan.Proofs.Assembly.Walk
import FeaturePlan.Proofs.Gherkin.Expansion

/-!
The views of a plan: the tree, the list of executions, and the two catalogues. They hold the same
executions, and a document that was expanded has as many as it counts.
-/
namespace FeaturePlan

/-- The views of a plan agree. -/
structure TestPlan.Coherent (p : TestPlan) : Prop where
  flat : p.executions = p.feature.executions
  ids : (p.executions.map (·.id)).Nodup
  names : (p.executions.map (·.qualifiedName)).Nodup
  find : ∀ id e, p.find? id = some e ↔ e ∈ p.executions ∧ e.id = id
  findByName : ∀ name e, p.findByName? name = some e ↔ e ∈ p.executions ∧ e.qualifiedName = name

namespace Plan

variable {m : Materials}

structure Assembled (m : Materials) (ws : List Placement) (s : Assembly) (plan : TestPlan) : Prop where
  stands : Stands m False m.demands ws s
  scope : plan.feature.scope = m.feature
  mirrors : MirrorsAll m ws m.document.elements plan.feature.elements
  leftovers : s.candidates.leftovers = []
  executions : plan.executions = s.executions
  byId : plan.byId = s.byId
  byName : plan.byName = s.byName

theorem assembled_of_ok {μ : Matchers} {plan : TestPlan} (h : ((assemble m).outcome μ).1 = .ok plan) :
    ∃ ws s, Assembled m ws s plan := by
  obtain ⟨hends, -⟩ := assemble_ends m (False.elim : Kept m False μ)
  generalize (Matching.outcome (assemble m) μ).1 = result at hends h
  cases hends with
  | plan hs hm hempty =>
    cases h
    exact ⟨_, _, hs, rfl, hm, hempty, rfl, rfl, rfl⟩
  | stopped => cases h
  | unmatched => cases h

theorem Mirrors.executions {done : List Demand} {ws : List Placement} {e : Gherkin.Element}
    {made : Element} (h : Mirrors m done ws e made) : made.executions = ws.flatMap (·.made.executions) := by
  cases h with
  | node n c made => simp [Element.executions]
  | rule r scope ws h hnodes => simp [Element.executions, List.flatMap_map]
  | bareRule r h hnodes => rfl

theorem Mirrors.places {done : List Demand} {ws : List Placement} {e : Gherkin.Element}
    {made : Element} (h : Mirrors m done ws e made) :
    ws.map (fun w => (w.rule.map (·.rule), w.node)) = e.places := by
  cases h with
  | node n c made => rfl
  | rule r scope ws h hnodes =>
    have hp := congrArg (List.map fun p : Option PairedRule × Gherkin.Node => (p.1.map (·.rule), p.2)) hnodes
    simpa [Function.comp_def, Gherkin.Element.places, Position.place] using hp
  | bareRule r h hnodes => simp [Gherkin.Element.places, hnodes]

theorem MirrorsAll.executions {ws : List Placement} {es : List Gherkin.Element} {els : List Element}
    (h : MirrorsAll m ws es els) :
    els.flatMap Element.executions = ws.flatMap (·.made.executions) := by
  induction h with
  | nil => rfl
  | concat h he ih => simp [ih, he.executions]

theorem MirrorsAll.places {ws : List Placement} {es : List Gherkin.Element} {els : List Element}
    (h : MirrorsAll m ws es els) :
    ws.map (fun w => (w.rule.map (·.rule), w.node)) = es.flatMap Gherkin.Element.places := by
  induction h with
  | nil => rfl
  | concat h he ih => simp [ih, he.places]

theorem Assembled.coherent {ws : List Placement} {s : Assembly} {plan : TestPlan}
    (h : Assembled m ws s plan) : plan.Coherent := by
  have hindexed := h.stands.indexed
  have hids : (plan.executions.map (·.id)).Nodup := by
    simpa [h.executions, Execution.identity, Function.comp_def] using hindexed.distinct.1
  have hnames : (plan.executions.map (·.qualifiedName)).Nodup := by
    simpa [h.executions, Execution.identity, Function.comp_def] using hindexed.distinct.2
  refine ⟨?_, hids, hnames, fun id e => ?_, fun name e => ?_⟩
  · rw [FeatureNode.executions, h.mirrors.executions, h.executions, h.stands.executions]
  · have hkeys : plan.byId.keys.Nodup := by
      rw [h.byId, hindexed.byId_keys]
      exact hindexed.distinct.1
    refine Catalogue.find?_eq_some_iff_mem ?_ hkeys
    rw [h.byId, hindexed.byId, h.executions]
  · have hkeys : plan.byName.keys.Nodup := by
      rw [h.byName, hindexed.byName_keys]
      exact hindexed.distinct.2
    refine Catalogue.find?_eq_some_iff_mem ?_ hkeys
    rw [h.byName, hindexed.byName, h.executions]

def groupedExamples (o : Gherkin.Outline) : List Gherkin.Example :=
  o.groups.flatMap fun g => (groupExamples o g).map Prod.fst

theorem map_fst_groupExamples_perm (o : Gherkin.Outline) (g : Gherkin.ExampleGroup) :
    ((groupExamples o g).map Prod.fst).Perm (o.examples.filter (·.groupId = g.id)) := by
  have hfst : (groupExamples o g).map Prod.fst =
      (o.examples.filter (·.groupId = g.id)).mergeSort fun a b => a.index ≤ b.index := by
    simp [groupExamples, List.mapIdx_eq_zipIdx_map, Function.comp_def]
  rw [hfst]
  exact List.mergeSort_perm _ _

theorem mem_groupedExamples {o : Gherkin.Outline} {e : Gherkin.Example} :
    e ∈ groupedExamples o ↔ e ∈ o.examples ∧ ∃ g ∈ o.groups, g.id = e.groupId := by
  simp only [groupedExamples, List.mem_flatMap, (map_fst_groupExamples_perm o _).mem_iff,
    List.mem_filter, decide_eq_true_eq]
  constructor
  · rintro ⟨g, hg, he, hid⟩
    exact ⟨he, g, hg, hid.symm⟩
  · rintro ⟨he, g, hg, hid⟩
    exact ⟨g, hg, he, hid.symm⟩

theorem length_groupedExamples {o : Gherkin.Outline} (ho : o.Expanded)
    (h : ((groupedExamples o).map (·.index)).Nodup) : (groupedExamples o).length = o.examples.length := by
  have hexamples : (o.examples.map (·.index)).Nodup := by
    rw [ho.numbered]
    exact List.nodup_range
  refine ((List.perm_ext_iff_of_nodup (h.of_map _) (hexamples.of_map _)).2 fun e => ?_).length_eq
  rw [mem_groupedExamples]
  exact ⟨fun he => he.1, fun he => ⟨he, ho.grouped e he⟩⟩

theorem ids_drafts_outline (rule : Option PairedRule) (c : Candidate) (o : Gherkin.Outline) :
    ((drafts m rule c (.outline o)).map Draft.identity).map Prod.fst =
      ((groupedExamples o).map (·.index)).map (exampleId c.id.text) := by
  simp only [drafts, groupedExamples, List.map_flatMap, List.map_map]
  rfl

theorem length_drafts {rule : Option PairedRule} {c : Candidate} {n : Gherkin.Node} (hn : n.Expanded)
    (h : Distinct ((drafts m rule c n).map Draft.identity)) :
    (drafts m rule c n).length = n.executionCount := by
  cases n with
  | scenario s => rfl
  | outline o =>
    have hids := ids_drafts_outline (m := m) rule c o
    have hlength := congrArg List.length hids
    rw [Distinct, hids] at h
    simp only [List.length_map] at hlength
    rw [hlength, length_groupedExamples hn (h.1.of_map _)]
    rfl

theorem Assembled.size_eq {ws : List Placement} {s : Assembly} {plan : TestPlan}
    (h : Assembled m ws s plan) (hm : ∀ place ∈ m.document.places, place.2.Expanded) :
    plan.size = m.document.executionCount := by
  have hplaces : ws.map (fun w => (w.rule.map (·.rule), w.node)) = m.document.places := h.mirrors.places
  have hcount : ∀ w ∈ ws, w.made.executions.length = w.node.executionCount := by
    intro w hw
    have hsettled := (h.stands.planned w hw).settled
    have hdistinct : Distinct (w.made.executions.map Execution.identity) := by
      have hmem : w.made.executions ∈ ws.map (·.made.executions) := List.mem_map.2 ⟨w, hw, rfl⟩
      refine h.stands.indexed.distinct.of_sublist ?_
      rw [h.stands.executions, List.flatMap_def]
      exact (List.sublist_flatten_of_mem hmem).map Execution.identity
    rw [map_identity_of_settled hsettled] at hdistinct
    rw [← hsettled.length_eq]
    refine length_drafts (hm (w.rule.map (·.rule), w.node) ?_) hdistinct
    rw [← hplaces]
    exact List.mem_map.2 ⟨w, hw, rfl⟩
  rw [TestPlan.size, h.executions, h.stands.executions, m.document.executionCount_eq, ← hplaces,
    List.foldr_map]
  exact length_flatMap_eq_foldr hcount

/-- Whatever the candidates and their identifiers, the views of a plan agree, and a plan of a document
that comes of a written feature has as many executions as the document counts. -/
theorem assemble_coherent {μ : Matchers} {plan : TestPlan}
    (h : ((assemble m).outcome μ).1 = .ok plan) :
    plan.Coherent ∧ ∀ source path, Gherkin.Document.ofSource source path = .ok m.document →
      plan.size = m.document.executionCount := by
  obtain ⟨ws, s, ha⟩ := assembled_of_ok h
  exact ⟨ha.coherent, fun source path hd => ha.size_eq (Gherkin.Document.ofSource_expanded hd)⟩

def twoGroups : Gherkin.Source.Feature where
  keyword := "Feature"
  name := "Prices"
  description := none
  tags := []
  background := none
  scenarios := [{
    keyword := "Scenario Outline", name := "Cost of <item>", tags := [], steps := []
    examples := [
      { keyword := "Examples", name := "", tags := [], table := [["item"], ["tea"]], line := 4 },
      { keyword := "Examples", name := "", tags := [], table := [["item"], ["milk"]], line := 7 }]
    line := 2 }]
  rules := []

def twoGroupsFeature : Scope := { id := ⟨"feature-1"⟩, kind := .feature, name := "Prices", mode := .standard }

def twoGroupsMaterials : Materials where
  document := (Gherkin.Document.ofSource twoGroups).toOption.getD default
  feature := twoGroupsFeature
  candidates := [{
    scope :=
      { id := ⟨"scenarioOutline-1"⟩, kind := .outline, name := "Cost of <item>", mode := .standard }
    feature := twoGroupsFeature, rule := none, ancestors := [twoGroupsFeature], steps := [] }]
  parameters := {}

theorem twoGroups_coherent : ∃ plan, ((assemble twoGroupsMaterials).outcome {}).1 = .ok plan ∧
    plan.Coherent ∧ plan.size = 2 := by
  have hok : ((assemble twoGroupsMaterials).outcome {}).1.isOk = true := by decide +kernel
  obtain ⟨plan, hplan⟩ := exists_ok_of_isOk hok
  have hsource : Gherkin.Document.ofSource twoGroups none = .ok twoGroupsMaterials.document := by
    decide +kernel
  have hcount : twoGroupsMaterials.document.executionCount = 2 := by decide +kernel
  obtain ⟨hcoherent, hsize⟩ := assemble_coherent hplan
  exact ⟨plan, hplan, hcoherent, (hsize twoGroups none hsource).trans hcount⟩

end Plan
end FeaturePlan
