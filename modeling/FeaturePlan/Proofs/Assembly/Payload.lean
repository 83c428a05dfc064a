import FeaturePlan.Proofs.Assembly.Examples

/-!
The values of an example against its texts. The placeholders of an outline take the first column with their
name, and the values of an example hold the last; so the texts of an example are those that its values make
of the outline as long as the first and the last cell under every placeholder's name are the same.
-/
namespace FeaturePlan

namespace Gherkin

def Step.placeholders (s : Step) : List String := s.texts.flatMap fun text => Text.placeholders text.toList

theorem Step.Filled.congr {value? value?' : String → Option String} {template step : Step}
    (h : Step.Filled value? template step)
    (hvalues : ∀ name ∈ template.placeholders, value? name = value?' name) :
    Step.Filled value?' template step := by
  have htext (text : String) (hmem : text ∈ template.texts) (filled : String)
      (hfilled : Text.Interpolated value? text.toList filled.toList) :
      Text.Interpolated value?' text.toList filled.toList :=
    hfilled.congr fun name hname => hvalues name (List.mem_flatMap.2 ⟨text, hmem, hname⟩)
  refine ⟨h.keyword, h.type, h.conjunction, h.line, htext _ List.mem_cons_self _ h.text, ?_, ?_⟩
  · refine option_rel_of_mem (fun text hdocString => htext text ?_) h.docString
    simp [texts, Option.mem_def.1 hdocString]
  · refine option_rel_of_mem (fun rows htable filledRows hrows => ?_) h.table
    refine forall₂_of_mem (fun row hrow filledRow _ hcells => ?_) hrows
    refine forall₂_of_mem (fun cell hcell filledCell _ => htext cell ?_ filledCell) hcells
    refine List.mem_cons_of_mem _ (List.mem_append_right _ ?_)
    rw [Option.mem_def.1 htable, Option.toList_some, List.flatten_singleton]
    exact List.mem_flatten.2 ⟨row, hrow, hcell⟩

def Source.Scenario.placeholders (s : Source.Scenario) : List String :=
  Text.placeholders s.name.toList ++ (s.steps.map Step.ofSource).flatMap Step.placeholders

end Gherkin

/-- The name of an execution and its own steps are those of a written scenario with the given values in place
of the placeholders. -/
def Execution.Reads (value? : String → Option String) (s : Gherkin.Source.Scenario)
    (own : List Gherkin.Step) (e : Execution) : Prop :=
  Text.Interpolated value? s.name.toList e.name.toList ∧
    List.Forall₂ (Gherkin.Step.Filled value?) (s.steps.map Gherkin.Step.ofSource) own

theorem Execution.Reads.congr {value? value?' : String → Option String} {s : Gherkin.Source.Scenario}
    {own : List Gherkin.Step} {e : Execution} (h : e.Reads value? s own)
    (hvalues : ∀ name ∈ s.placeholders, value? name = value?' name) : e.Reads value?' s own := by
  refine ⟨h.1.congr fun name hname => hvalues name (List.mem_append_left _ hname), ?_⟩
  refine forall₂_of_mem (fun template htemplate step _ hstep => hstep.congr fun name hname => ?_) h.2
  exact hvalues name (List.mem_append_right _ (List.mem_flatMap.2 ⟨template, htemplate, hname⟩))

/-- What an execution shows of a row of the examples of a written scenario: the values that it holds, and its
own steps behind those of the backgrounds. -/
structure Execution.Shows (f : Gherkin.Source.Feature)
    (place : Option Gherkin.Source.Rule × Gherkin.Source.Scenario)
    (row : Gherkin.Source.Examples × List String) (data : ExampleData) (own : List Gherkin.Step)
    (e : Execution) : Prop where
  holds : e.exampleData = some data
  steps : e.gherkinSteps = f.backgroundSteps place.1 ++ own
  /-- The texts take the first of several columns with one name. -/
  texts : e.Reads (fun column => (row.1.cells row.2).lookup column) place.2 own
  /-- The values take the last of them. -/
  values : ∀ column, data.values.find? column = (row.1.cells row.2).reverse.lookup column
  /-- They agree if that makes no difference for the placeholders of the scenario. -/
  agree : (∀ column ∈ place.2.placeholders,
      (row.1.cells row.2).lookup column = (row.1.cells row.2).reverse.lookup column) →
    e.Reads data.values.find? place.2 own

namespace Plan

section Groups

variable {o : Gherkin.Outline}

theorem mem_map_fst_groupExamples {g : Gherkin.ExampleGroup} {made : Gherkin.Example} :
    made ∈ (groupExamples o g).map Prod.fst ↔ made ∈ o.examples ∧ made.groupId = g.id := by
  rw [(map_fst_groupExamples_perm o g).mem_iff, List.mem_filter, decide_eq_true_eq]

def inUse (o : Gherkin.Outline) : Gherkin.Outline :=
  { o with groups := o.groups.filter fun g => o.examples.any (·.groupId = g.id) }

theorem nodup_ids_inUse (h : ((groupedExamples o).map (·.index)).Nodup) :
    ((inUse o).groups.map (·.id)).Nodup := by
  rw [groupedExamples, List.map_flatMap] at h
  refine List.pairwise_map.2 (List.pairwise_filter.2 ((List.nodup_flatMap.1 h).2.imp ?_))
  intro g g' hdisjoint huse _ hid
  obtain ⟨e, he, heg⟩ := List.any_eq_true.1 huse
  have heg : e.groupId = g.id := of_decide_eq_true heg
  exact hdisjoint (List.mem_map_of_mem (mem_map_fst_groupExamples.2 ⟨he, heg⟩))
    (List.mem_map_of_mem (mem_map_fst_groupExamples.2 ⟨he, heg.trans hid⟩))

theorem rows_inUse (h : List.Forall₂ o.Makes o.rows.zipIdx o.examples) : (inUse o).rows = o.rows := by
  refine flatMap_filter_of_nil fun g hg hunused => ?_
  by_contra hne
  obtain ⟨⟨g', row⟩, hrow⟩ := List.exists_mem_of_ne_nil _ hne
  obtain rfl : g = g' := by
    obtain ⟨_, -, heq⟩ := List.mem_map.1 hrow
    exact (Prod.mk.inj heq).1
  have hrow : (g, row) ∈ o.rows.zipIdx.map Prod.fst := by
    rw [List.zipIdx_map_fst]
    exact List.mem_flatMap.2 ⟨g, hg, hrow⟩
  obtain ⟨⟨_, index⟩, hindex, rfl⟩ := List.mem_map.1 hrow
  obtain ⟨e, he, hmakes⟩ := exists_of_mem_left h hindex
  have hused : o.examples.any (·.groupId = g.id) = true :=
    List.any_eq_true.2 ⟨e, he, decide_eq_true hmakes.groupId⟩
  rw [hused] at hunused
  cases hunused

theorem makes_of_mem_groupExamples (h : List.Forall₂ o.Makes o.rows.zipIdx o.examples)
    (hnodup : ((groupedExamples o).map (·.index)).Nodup) {g : Gherkin.ExampleGroup} (hg : g ∈ o.groups)
    {made : Gherkin.Example} {cells : List String} (hmade : (made, cells) ∈ groupExamples o g) :
    (g, cells) ∈ o.rows ∧ ∃ index, o.Makes ((g, cells), index) made := by
  have hrows : List.Forall₂ (Gherkin.Example.OfRow o.steps) (inUse o).rows.zipIdx o.examples := by
    rw [rows_inUse h]
    exact h.imp fun _ _ hmakes => hmakes.toOfRow
  have hall := flatMap_groupExamples (o := inUse o) (nodup_ids_inUse hnodup) (.refl _) hrows
  have hused : g ∈ (inUse o).groups := by
    obtain ⟨he, heg⟩ := mem_map_fst_groupExamples.1 (List.mem_map_of_mem (f := Prod.fst) hmade)
    exact List.mem_filter.2 ⟨hg, List.any_eq_true.2 ⟨made, he, decide_eq_true heg⟩⟩
  have hzip : (made, g, cells) ∈ (inUse o).examples.zip (inUse o).rows := by
    rw [← hall]
    exact List.mem_flatMap.2 ⟨g, hused, List.mem_map.2 ⟨_, hmade, rfl⟩⟩
  rw [rows_inUse h] at hzip
  refine ⟨(List.of_mem_zip hzip).2, ?_⟩
  have hpairs := forall₂_zip_map h Prod.fst
  rw [List.zipIdx_map_fst] at hpairs
  obtain ⟨⟨row, index⟩, -, hmakes, rfl⟩ := exists_of_mem_right hpairs hzip
  exact ⟨index, hmakes⟩

end Groups

section Places

variable {m : Materials} {rule : Option PairedRule} {c : Candidate} {f : Gherkin.Source.Feature}
  {place : Option Gherkin.Source.Rule × Gherkin.Source.Scenario} {n : Gherkin.Node} {made : Node}

theorem Planned.nodup_groupedExamples {o : Gherkin.Outline} (h : Planned m False rule c (.outline o) made)
    (hids : (made.executions.map (·.id)).Nodup) : ((groupedExamples o).map (·.index)).Nodup := by
  refine List.Nodup.of_map (exampleId c.id.text) ?_
  rw [← ids_drafts_outline (m := m) rule c o, ← map_identity_of_settled h.settled, List.map_map]
  exact hids

/-- An example among the executions of a node stands for a row of the scenario that the node comes of. -/
theorem shows_of_planned (hn : Gherkin.Node.ofSource place.2 = .ok n)
    (hbackgrounds : ∀ steps, withBackgrounds m rule steps = f.backgroundSteps place.1 ++ steps)
    (hplanned : Planned m False rule c n made) (hids : (made.executions.map (·.id)).Nodup)
    {e : Execution} (he : e ∈ made.executions) (hexample : e.isExample = true) :
    ∃ row ∈ place.2.rows, ∃ data own, e.Shows f place row data own := by
  have hsettled := hplanned.settled
  obtain ⟨d, hd, steps, rfl, -⟩ := exists_of_mem_right hsettled he
  rcases mem_drafts_cases hd with ⟨s, -, rfl⟩ | ⟨o, g, row, cells, rfl, hg, hrow, rfl⟩
  · cases hexample
  obtain ⟨_, ho, hname, hgroups, hsteps, hmakes⟩ :=
    Gherkin.Node.ofSource_of_examples (Gherkin.Node.examples_ne_nil_of_outline hn) hn
  cases ho
  obtain ⟨hmem, index, hmakes⟩ := makes_of_mem_groupExamples hmakes (hplanned.nodup_groupedExamples hids) hg hrow
  rw [Gherkin.Outline.rows_eq hgroups] at hmem
  obtain ⟨⟨t, cells⟩, hwritten, heq⟩ := List.mem_map.1 hmem
  cases heq
  -- The texts were made with the first cell under each column, and the values keep the last one.
  have htexts : Execution.Reads (fun column => (t.cells cells).lookup column) place.2 row.steps
      ((exampleDraft m rule o c (.ofSource t) row cells).complete steps) := by
    refine ⟨?_, ?_⟩
    · rw [← hname]
      exact hmakes.name
    · rw [← hsteps]
      exact hmakes.steps
  refine ⟨(t, cells), hwritten, _, row.steps, rfl, hbackgrounds row.steps, htexts, find?_rowValues _ _, ?_⟩
  refine fun hagree => htexts.congr fun column hcolumn => ?_
  rw [hagree column hcolumn]
  exact (find?_rowValues _ _ _).symm

/-- In a plan of a written feature, the texts of every example are those that its values make of its outline,
unless a placeholder stands for several columns of which the first and the last have different cells. -/
theorem ofDocument_shows {path : Option String} {d : Gherkin.Document}
    (hd : Gherkin.Document.ofSource f path = .ok d) {limit : Nat} {b : Blueprint} {μ : Matchers}
    {plan : TestPlan} (h : ((ofDocument limit d b).outcome μ).1 = .ok plan) :
    ∀ e ∈ plan.executions, e.isExample = true →
      ∃ place ∈ f.places, ∃ row ∈ place.2.rows, ∃ data own, e.Shows f place row data own := by
  intro e he hexample
  rcases ofDocument_cases limit d b with ⟨err, herr⟩ | ⟨feature, cs, -, hassemble⟩
  · rw [herr] at h
    cases h
  rw [hassemble] at h
  obtain ⟨hbackground, hmade⟩ := Gherkin.Document.ofSource_eq_ok hd
  obtain ⟨hexecutions, hplanned⟩ := places_of_ok
    (show Kept (.ofFeature d feature cs b.parameters limit) False μ from nofun) h
  obtain ⟨_, _, hassembled⟩ := assembled_of_ok h
  have hids := hassembled.coherent.ids
  rw [hexecutions] at he hids
  obtain ⟨made, hmem, he⟩ := List.mem_flatMap.1 he
  rw [List.map_flatMap] at hids
  obtain ⟨⟨_, n⟩, hplace', rule, c, hpaired, -, hplanned⟩ := exists_of_mem_right hplanned hmem
  obtain ⟨place, hplace, hrule, hn⟩ := exists_of_mem_right hmade hplace'
  cases hpaired
  obtain ⟨row, hrow, data, own, hshows⟩ := shows_of_planned hn
    (withBackgrounds_of_written hbackground hrule) hplanned ((List.nodup_flatMap.1 hids).1 made hmem) he hexample
  exact ⟨place, hplace, row, hrow, data, own, hshows⟩

end Places

section Basket

/-- An outline with two columns of one name, and a table for each of the given rows. -/
def basket (rows : List (List String)) : Gherkin.Source.Scenario where
  keyword := "Scenario Outline"
  name := "Buy <fruit>"
  tags := []
  steps := [{ keyword := "When ", type := .action, text := "I buy <fruit>", line := 3 }]
  examples := rows.zipIdx.map fun (row, position) =>
    { keyword := "Examples", name := "", tags := [], table := [["fruit", "fruit"], row],
      line := 4 + 3 * position }
  line := 2

def basketFeature (rows : List (List String)) : Gherkin.Source.Feature where
  keyword := "Feature"
  name := "Shop"
  description := none
  tags := []
  background := none
  scenarios := [basket rows]
  rules := []

def basketDocument (rows : List (List String)) : Gherkin.Document :=
  (Gherkin.Document.ofSource (basketFeature rows)).toOption.getD default

def basketPlan (rows : List (List String)) : Except PlanError TestPlan :=
  ((ofDocument 5 (basketDocument rows) (.ofProgram
    [.scope 0 false (.usual .feature "Shop")
      [.scope 1 false (.usual .outline "Buy <fruit>")
        [.entry 2 false (.step (.typed .action) (.phrase "I buy figs") {} none),
          .entry 3 false (.step (.typed .action) (.phrase "I buy plums") {} none)] none] none])).outcome {}).1

def evenRows : List (List String) := [["figs", "figs"], ["plums"]]

theorem evenRows_shown : ∃ plan, basketPlan evenRows = .ok plan ∧
    plan.executions.map (·.name) = ["Buy figs", "Buy plums"] ∧
    ∀ e ∈ plan.executions, ∃ data, e.exampleData = some data ∧
      e.Reads data.values.find? (basket evenRows) e.gherkinSteps := by
  have hd : Gherkin.Document.ofSource (basketFeature evenRows) none = .ok (basketDocument evenRows) := by
    decide +kernel
  have hviews : ((basketPlan evenRows).toOption.map fun plan =>
      (plan.executions.map (·.name), plan.executions.all (·.isExample))) =
        some (["Buy figs", "Buy plums"], true) := by decide +kernel
  have hplaces : (basketFeature evenRows).places = [(none, basket evenRows)] := by decide +kernel
  have heven : ∀ row ∈ (basket evenRows).rows, ∀ column ∈ (basket evenRows).placeholders,
      (row.1.cells row.2).lookup column = (row.1.cells row.2).reverse.lookup column := by decide +kernel
  obtain ⟨plan, hplan, hviews⟩ := Option.map_eq_some_iff.1 hviews
  have hplan := eq_ok_of_toOption hplan
  obtain ⟨hnames, hexamples⟩ := Prod.mk.inj hviews
  refine ⟨plan, hplan, hnames, fun e he => ?_⟩
  obtain ⟨place, hplace, row, hrow, data, own, hshows⟩ :=
    ofDocument_shows hd hplan e he (List.all_eq_true.1 hexamples e he)
  rw [hplaces, List.mem_singleton] at hplace
  subst hplace
  have hown : e.gherkinSteps = own := hshows.steps
  exact ⟨data, hshows.holds, hown ▸ hshows.agree (heven row hrow)⟩

/-- Where the two columns differ, the texts say figs and the values say plums. -/
theorem unevenRow_disagrees : ∃ plan e data,
    Gherkin.Document.ofSource (basketFeature [["figs", "plums"]]) none =
        .ok (basketDocument [["figs", "plums"]]) ∧
      basketPlan [["figs", "plums"]] = .ok plan ∧ e ∈ plan.executions ∧ e.exampleData = some data ∧
        data.values.find? "fruit" = some "plums" ∧ e.name = "Buy figs" ∧
          e.gherkinSteps.map (·.text) = ["I buy figs"] ∧
            ¬ Text.Interpolated data.values.find? "Buy <fruit>".toList e.name.toList := by
  have hviews : ((basketPlan [["figs", "plums"]]).toOption.map fun plan => plan.executions.map fun e =>
      (e.exampleData.bind (·.values.find? "fruit"), e.name, e.gherkinSteps.map (·.text))) =
        some [(some "plums", "Buy figs", ["I buy figs"])] := by decide +kernel
  obtain ⟨plan, hplan, hviews⟩ := Option.map_eq_some_iff.1 hviews
  have hplan := eq_ok_of_toOption hplan
  obtain ⟨e, he, hview⟩ := List.map_eq_singleton_iff.1 hviews
  simp only [Prod.mk.injEq] at hview
  obtain ⟨hvalue, hname, htexts⟩ := hview
  obtain ⟨data, hdata, hvalue⟩ := Option.bind_eq_some_iff.1 hvalue
  refine ⟨plan, e, data, by decide +kernel, hplan, by simp [he], hdata, hvalue, hname, htexts, fun hread => ?_⟩
  have hplaceholders : Text.placeholders "Buy <fruit>".toList = ["fruit"] := by decide +kernel
  have hread : Text.Interpolated (fun _ => some "plums") "Buy <fruit>".toList "Buy figs".toList := by
    rw [← hname]
    refine hread.congr fun column hcolumn => ?_
    rw [hplaceholders, List.mem_singleton] at hcolumn
    rw [hcolumn, hvalue]
  have hfill : Text.fillTemplate (fun _ => some "plums") "Buy <fruit>" ≠ .ok "Buy figs" := by decide +kernel
  exact hfill (Text.fillTemplate_eq_ok_iff.2 hread)

end Basket

end Plan
end FeaturePlan
