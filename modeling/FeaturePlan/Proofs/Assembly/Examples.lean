import FeaturePlan.Proofs.Assembly.Resolution
import FeaturePlan.Proofs.Gherkin.Shuffle

/-!
The examples of outlines in a plan. There is one for each row of the written tables, in the order of the
rows, with the number, the group and the cells of its row; the order in which the document lists the
examples does not matter.
-/
namespace FeaturePlan

namespace Gherkin

def Source.Scenario.rows (s : Source.Scenario) : List (Source.Examples × List String) :=
  s.examples.flatMap fun t => t.table.tail.map fun row => (t, row)

theorem Outline.rows_eq {o : Outline} {s : Source.Scenario}
    (h : o.groups = s.examples.map ExampleGroup.ofSource) :
    o.rows = s.rows.map (Prod.map ExampleGroup.ofSource id) := by
  rw [Outline.rows, h, Source.Scenario.rows, List.flatMap_map, List.map_flatMap]
  refine List.flatMap_congr fun t _ => ?_
  rw [List.map_map]
  rfl

theorem ExampleGroup.nodup_ids {tables : List Source.Examples} (h : (tables.map (·.line)).Nodup) :
    ((tables.map ExampleGroup.ofSource).map (·.id)).Nodup := by
  rw [List.map_map]
  have hid : ExampleGroup.id ∘ ExampleGroup.ofSource =
      (fun line : Nat => "examples-" ++ toString line) ∘ Source.Examples.line := rfl
  rw [hid, ← List.map_map]
  refine h.map fun line line' hline => ?_
  exact toString_nat_injective (String.append_right_inj _ |>.1 hline)

/-- The columns of a table with the cells of a row, as far as there are both. -/
def Source.Examples.cells (t : Source.Examples) (row : List String) : List (String × String) :=
  (t.table.headD []).zip row

def Source.Feature.backgroundSteps (f : Source.Feature) (rule : Option Source.Rule) : List Gherkin.Step :=
  ((f.background.toList ++ (rule.bind (·.background)).toList).flatMap (·.steps)).map Gherkin.Step.ofSource

end Gherkin

/-- What a plan has, in the given scope, for a row of the examples of a written scenario. Placeholders take
the first of several columns with their name, and the values of the example take the last. -/
structure Execution.OfRow (f : Gherkin.Source.Feature) (rule : Option Gherkin.Source.Rule)
    (s : Gherkin.Source.Scenario) (scope : Scope) (row : (Gherkin.Source.Examples × List String) × Nat)
    (e : Execution) : Prop where
  id : e.id = scope.id.text ++ "#" ++ toString (row.2 + 1)
  data : ∃ values, e.exampleData = some {
      groupId := "examples-" ++ toString row.1.1.line
      groupName := row.1.1.name
      groupTags := row.1.1.tags
      index := row.2
      values } ∧
    values.keys.Nodup ∧
    ∀ column, values.find? column = (row.1.1.cells row.1.2).reverse.lookup column
  steps : ∃ made, e.origin = .example made ∧ made.index = row.2 ∧
    List.Forall₂ (Gherkin.Step.Filled fun name => (row.1.1.cells row.1.2).lookup name)
      (s.steps.map Gherkin.Step.ofSource) made.steps ∧
    e.gherkinSteps = f.backgroundSteps rule ++ made.steps

namespace Plan

theorem nodup_keys_rowValues (header row : List String) : (rowValues header row).keys.Nodup :=
  Catalogue.nodup_keys_foldl_put (header.zip row)

theorem find?_rowValues (header row : List String) (column : String) :
    (rowValues header row).find? column = (header.zip row).reverse.lookup column :=
  Catalogue.find?_foldl_put (header.zip row) column

section Groups

variable {o : Gherkin.Outline} {examples : List Gherkin.Example}

/-- Sorting a group undoes a shuffle, and then position and row belong together. -/
theorem groupExamples_eq_zip (hperm : o.examples.Perm examples)
    (hsorted : examples.Pairwise (·.index < ·.index)) {g : Gherkin.ExampleGroup}
    (hlength : (examples.filter (·.groupId = g.id)).length = g.rows.length) :
    groupExamples o g = (examples.filter (·.groupId = g.id)).zip g.rows := by
  have hgroup := mergeSort_eq_of_perm (hperm.filter (·.groupId = g.id)) (hsorted.filter _)
  rw [groupExamples, hgroup]
  refine List.ext_getElem (by simp [hlength]) fun i hi hi' => ?_
  have hrow : i < g.rows.length := by simpa [hlength] using hi
  simp [hrow]

theorem flatMap_groupExamples (hids : (o.groups.map (·.id)).Nodup) (hperm : o.examples.Perm examples)
    (hrows : List.Forall₂ (Gherkin.Example.OfRow o.steps) o.rows.zipIdx examples) :
    (o.groups.flatMap fun g => (groupExamples o g).map fun (row, cells) => (row, g, cells)) =
      examples.zip o.rows := by
  have hsorted : examples.Pairwise (·.index < ·.index) := by
    rw [← List.pairwise_map, Gherkin.Example.map_index hrows]
    exact List.pairwise_lt_range
  have hgroups : examples.map (·.groupId) =
      o.groups.flatMap fun g => List.replicate g.rows.length g.id := by
    rw [Gherkin.Example.map_groupId hrows, Gherkin.Outline.rows, List.map_flatMap]
    refine List.flatMap_congr fun g _ => ?_
    simp [Function.comp_def]
  obtain ⟨hall, hsizes⟩ := flatMap_filter_of_blocks hids hgroups
  calc (o.groups.flatMap fun g => (groupExamples o g).map fun (row, cells) => (row, g, cells))
    _ = o.groups.flatMap fun g =>
        (examples.filter (·.groupId = g.id)).zip (g.rows.map fun row => (g, row)) := by
      refine List.flatMap_congr fun g hg => ?_
      rw [groupExamples_eq_zip hperm hsorted (hsizes g hg), List.zip_map_right]
      rfl
    _ = examples.zip o.rows := by
      rw [← zip_flatMap fun g hg => by rw [hsizes g hg, List.length_map], hall, Gherkin.Outline.rows]

theorem forall₂_drafts (m : Materials) (rule : Option PairedRule) (c : Candidate)
    (hids : (o.groups.map (·.id)).Nodup) (hperm : o.examples.Perm examples)
    (hrows : List.Forall₂ (Gherkin.Example.OfRow o.steps) o.rows.zipIdx examples) :
    List.Forall₂ (fun x d => ∃ row, d = exampleDraft m rule o c x.1.1 row x.1.2 ∧ row.OfRow o.steps x)
      o.rows.zipIdx (drafts m rule c (.outline o)) := by
  have hdrafts : drafts m rule c (.outline o) = (examples.zip o.rows).map fun (row, g, cells) =>
      exampleDraft m rule o c g row cells := by
    rw [← flatMap_groupExamples hids hperm hrows, List.map_flatMap, drafts]
    simp only [List.map_map, Function.comp_def]
  have hzip := forall₂_zip_map hrows Prod.fst
  rw [List.zipIdx_map_fst] at hzip
  rw [hdrafts, List.forall₂_map_right_iff]
  refine hzip.imp fun x p hp => ⟨p.1, ?_, hp.1⟩
  rw [← hp.2]

end Groups

section Places

variable {m : Materials} {tidy : Prop} {rule : Option PairedRule} {c : Candidate}
  {f : Gherkin.Source.Feature} {written : Option Gherkin.Source.Rule} {s : Gherkin.Source.Scenario}

theorem ofRow_of_settled {o : Gherkin.Outline} {row : Gherkin.Example}
    {x : (Gherkin.Source.Examples × List String) × Nat} {e : Execution}
    (hsteps : o.steps = s.steps.map Gherkin.Step.ofSource)
    (hbackgrounds : ∀ steps, withBackgrounds m rule steps = f.backgroundSteps written ++ steps)
    (hrow : row.OfRow o.steps ((.ofSource x.1.1, x.1.2), x.2))
    (he : Settled m tidy c (exampleDraft m rule o c (.ofSource x.1.1) row x.1.2) e) :
    e.OfRow f written s c.scope x := by
  obtain ⟨steps, rfl, -⟩ := he
  refine ⟨?_, ⟨rowValues _ _, ?_, nodup_keys_rowValues _ _, find?_rowValues _ _⟩, row, rfl, hrow.index, ?_,
    hbackgrounds row.steps⟩
  · rw [← hrow.index]
    rfl
  · rw [← hrow.index]
    rfl
  · rw [← hsteps]
    exact hrow.steps

theorem outline_of_planned {n n' : Gherkin.Node} {made : Node} (hs : s.examples ≠ [])
    (hlines : (s.examples.map (·.line)).Nodup) (hn : Gherkin.Node.ofSource s = .ok n)
    (hshuffled : n.Shuffled n')
    (hbackgrounds : ∀ steps, withBackgrounds m rule steps = f.backgroundSteps written ++ steps)
    (hplanned : Planned m tidy rule c n' made) :
    ∃ node, made = .outline node ∧ node.name = s.name ∧
      List.Forall₂ (Execution.OfRow f written s node.scope) s.rows.zipIdx node.examples := by
  obtain ⟨o, rfl, hname, hgroups, hsteps, hmakes⟩ := Gherkin.Node.ofSource_of_examples hs hn
  have hrows : List.Forall₂ (Gherkin.Example.OfRow o.steps) o.rows.zipIdx o.examples :=
    hmakes.imp fun _ _ hrow => hrow.toOfRow
  cases hshuffled with
  | @outline _ shuffled hperm =>
    cases hplanned with
    | @outline _ es hes =>
      have hids : (o.groups.map (·.id)).Nodup := hgroups ▸ Gherkin.ExampleGroup.nodup_ids hlines
      have hdrafts := forall₂_drafts (o := { o with examples := shuffled }) m rule c hids hperm.symm hrows
      have hes : List.Forall₂ (fun x e => ∃ row : Gherkin.Example, row.OfRow o.steps x ∧
          Settled m tidy c (exampleDraft m rule { o with examples := shuffled } c x.1.1 row x.1.2) e)
          o.rows.zipIdx es := by
        refine forall₂_trans hdrafts hes fun x d e hd he => ?_
        obtain ⟨row, rfl, hrow⟩ := hd
        exact ⟨row, hrow, he⟩
      rw [Gherkin.Outline.rows_eq hgroups, List.zipIdx_map, List.forall₂_map_left_iff] at hes
      refine ⟨_, rfl, hname, hes.imp fun x e he => ?_⟩
      obtain ⟨row, hrow, he⟩ := he
      exact ofRow_of_settled hsteps hbackgrounds hrow he

theorem withBackgrounds_of_written (hdocument : m.document.background = f.background.map .ofSource)
    (hrule : (rule.map PairedRule.rule).bind (·.background) =
      (written.bind (·.background)).map Gherkin.Background.ofSource) (steps : List Gherkin.Step) :
    withBackgrounds m rule steps = f.backgroundSteps written ++ steps := by
  rw [withBackgrounds_eq, hdocument, hrule, Gherkin.Source.Feature.backgroundSteps]
  cases f.background <;> cases written.bind (·.background) <;> simp [Gherkin.Background.ofSource]

/-- A node of a plan is the outline of a written scenario and has one example for each row. -/
def Node.Expands (f : Gherkin.Source.Feature)
    (place : Option Gherkin.Source.Rule × Gherkin.Source.Scenario) (made : Node) : Prop :=
  ∃ node, made = .outline node ∧ node.name = place.2.name ∧
    List.Forall₂ (Execution.OfRow f place.1 place.2 node.scope) place.2.rows.zipIdx node.examples

theorem assemble_expanded {path : Option String} {d : Gherkin.Document}
    (hd : Gherkin.Document.ofSource f path = .ok d) (hshuffled : d.Shuffled m.document) {μ : Matchers}
    {plan : TestPlan} (h : ((assemble m).outcome μ).1 = .ok plan) :
    List.Forall₂ (fun place made => place.2.examples ≠ [] → (place.2.examples.map (·.line)).Nodup →
      made.2.Expands f place) f.places plan.feature.places := by
  obtain ⟨hbackground, hmade⟩ := Gherkin.Document.ofSource_eq_ok hd
  obtain ⟨-, hplanned⟩ := places_of_ok (show Kept m False μ from nofun) h
  have hwritten : List.Forall₂ (fun written place =>
      place.1.bind (·.background) = (written.1.bind (·.background)).map Gherkin.Background.ofSource ∧
        ∃ n, Gherkin.Node.ofSource written.2 = .ok n ∧ n.Shuffled place.2) f.places m.document.places :=
    forall₂_trans hmade hshuffled.places fun _ _ _ hp hp' => ⟨hp'.1.trans hp.1, _, hp.2, hp'.2⟩
  refine forall₂_trans hwritten hplanned fun written place made hp hp' hs hlines => ?_
  obtain ⟨hrule, n, hn, hnode⟩ := hp
  obtain ⟨rule, c, hplace, -, hplanned⟩ := hp'
  rw [hplace] at hrule
  have hbackgrounds := withBackgrounds_of_written (hshuffled.background.trans hbackground) hrule
  exact outline_of_planned hs hlines hn hnode hbackgrounds hplanned

/-- In a plan, every scenario that is written with examples has one execution for each row of them. -/
theorem ofDocument_expanded {path : Option String} {written d : Gherkin.Document}
    (hwritten : Gherkin.Document.ofSource f path = .ok written) (hshuffled : written.Shuffled d)
    {limit : Nat} {b : Blueprint} {μ : Matchers} {plan : TestPlan}
    (h : ((ofDocument limit d b).outcome μ).1 = .ok plan) :
    List.Forall₂ (fun place made => place.2.examples ≠ [] → (place.2.examples.map (·.line)).Nodup →
      made.2.Expands f place) f.places plan.feature.places := by
  rcases ofDocument_cases limit d b with ⟨e, he⟩ | ⟨feature, cs, -, he⟩
  · rw [he] at h
    cases h
  · rw [he] at h
    exact assemble_expanded hwritten hshuffled h

end Places

section Fruits

/-- An outline with three tables, the first with two columns of one name and the second without rows. -/
def fruits : Gherkin.Source.Scenario where
  keyword := "Scenario Outline"
  name := "Buy <fruit>"
  tags := []
  steps := [{ keyword := "When ", type := .action, text := "I buy <fruit>", line := 3 }]
  examples := [
    { keyword := "Examples", name := "ripe", tags := ["@sweet"], line := 4,
      table := [["fruit", "fruit"], ["figs", "plums"]] },
    { keyword := "Examples", name := "none", tags := [], line := 8, table := [["fruit"]] },
    { keyword := "Examples", name := "green", tags := [], line := 10,
      table := [["fruit"], ["limes", "kiwis"]] }]
  line := 2

def fruitsFeature : Gherkin.Source.Feature where
  keyword := "Feature"
  name := "Shop"
  description := none
  tags := []
  background := none
  scenarios := [fruits]
  rules := []

def fruitsProgram : List Command :=
  [.scope 0 false (.usual .feature "Shop")
    [.scope 1 false (.usual .outline "Buy <fruit>")
      [.entry 2 false (.step (.typed .action) (.phrase "I buy figs") {} none),
        .entry 3 false (.step (.typed .action) (.phrase "I buy limes") {} none)] none]
    none]

def fruitsOutline : Gherkin.Outline :=
  match Gherkin.Node.ofSource fruits with
  | .ok (.outline o) => o
  | _ => default

def fruitsDocument (o : Gherkin.Outline) : Gherkin.Document where
  keyword := "Feature"
  name := "Shop"
  description := none
  tags := []
  background := none
  elements := [.node (.outline o)]
  path := none

def fruitsReversed : Gherkin.Document :=
  fruitsDocument { fruitsOutline with examples := fruitsOutline.examples.reverse }

theorem fruitsReversed_expanded : ∃ plan made,
    ((ofDocument 5 fruitsReversed (.ofProgram fruitsProgram)).outcome {}).1 = .ok plan ∧
      plan.executions.map (·.id) = ["scenarioOutline-1#1", "scenarioOutline-1#2"] ∧
      plan.feature.places = [made] ∧ made.2.Expands fruitsFeature (none, fruits) := by
  have hsource : Gherkin.Document.ofSource fruitsFeature none = .ok (fruitsDocument fruitsOutline) := by
    decide +kernel
  have hshuffled : (fruitsDocument fruitsOutline).Shuffled fruitsReversed :=
    ⟨_, .cons (.node (.outline (List.reverse_perm _).symm)) .nil, rfl⟩
  have hok : ((ofDocument 5 fruitsReversed (.ofProgram fruitsProgram)).outcome {}).1.isOk = true := by
    decide +kernel
  obtain ⟨plan, hplan⟩ := exists_ok_of_isOk hok
  have hids : (((ofDocument 5 fruitsReversed (.ofProgram fruitsProgram)).outcome {}).1.toOption.map
      fun plan => plan.executions.map (·.id)) = some ["scenarioOutline-1#1", "scenarioOutline-1#2"] := by
    decide +kernel
  rw [hplan] at hids
  have hexpanded := ofDocument_expanded hsource hshuffled hplan
  have hplaces : fruitsFeature.places = [(none, fruits)] := by decide +kernel
  rw [hplaces] at hexpanded
  generalize hmade : plan.feature.places = made at hexpanded
  cases hexpanded with
  | @cons _ made _ _ hfirst hrest =>
    cases hrest
    exact ⟨plan, made, hplan, Option.some.inj hids, hmade, hfirst (by decide) (by decide)⟩

end Fruits

end Plan
end FeaturePlan
