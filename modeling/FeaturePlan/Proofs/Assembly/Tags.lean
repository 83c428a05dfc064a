import FeaturePlan.Proofs.Assembly.Payload

/-!
Tags of executions. Merging keeps of every tag its first occurrence, so that merging what was merged before
changes nothing, and neither do tags that stand in front already. The tags that an example was given when its
outline was expanded are such: they come of the outline and of the group, which stand in front of them.
-/
namespace FeaturePlan

section FirstOccurrences

variable {α : Type} [DecidableEq α] {xs xs' again : List α}

/-- The members of a list at the places where they have not been met before. -/
def firstOccurrences (xs : List α) : List α :=
  (xs.zipIdx.filter fun (x, i) => x ∉ xs.take i).map Prod.fst

theorem firstOccurrences_concat (xs : List α) (x : α) :
    firstOccurrences (xs ++ [x]) = if x ∈ xs then firstOccurrences xs else firstOccurrences xs ++ [x] := by
  have hfront : (xs.zipIdx.filter fun (y, i) => y ∉ (xs ++ [x]).take i) =
      xs.zipIdx.filter fun (y, i) => y ∉ xs.take i := by
    refine List.filter_congr fun (y, i) hy => ?_
    have hi : i < xs.length := by simpa using List.snd_lt_of_mem_zipIdx hy
    simp only [List.take_append_of_le_length hi.le]
  have hlast : (xs ++ [x]).take xs.length = xs := List.take_left
  rw [firstOccurrences, List.zipIdx_append, List.filter_append, hfront, List.map_append, ← firstOccurrences]
  by_cases hx : x ∈ xs
  · simp [hx, hlast]
  · simp [hx, hlast]

theorem eraseDups_eq_firstOccurrences (xs : List α) : xs.eraseDups = firstOccurrences xs := by
  induction xs using List.reverseRecOn with
  | nil => rfl
  | append_singleton xs x ih => rw [eraseDups_concat, firstOccurrences_concat, ih]

@[simp] theorem eraseDups_eraseDups (xs : List α) : xs.eraseDups.eraseDups = xs.eraseDups := by
  induction xs using List.reverseRecOn with
  | nil => rfl
  | append_singleton xs x ih =>
    by_cases hx : x ∈ xs
    · rw [eraseDups_concat, if_pos hx, ih]
    · rw [eraseDups_concat, if_neg hx, eraseDups_concat, if_neg (mt List.mem_eraseDups.1 hx), ih]

theorem eraseDups_append_congr (h : xs.eraseDups = xs'.eraseDups) (ys : List α) :
    (xs ++ ys).eraseDups = (xs' ++ ys).eraseDups := by
  induction ys using List.reverseRecOn with
  | nil => simpa using h
  | append_singleton ys y ih =>
    have hmem : y ∈ xs ++ ys ↔ y ∈ xs' ++ ys := by rw [← List.mem_eraseDups, ih, List.mem_eraseDups]
    simp only [← List.append_assoc, eraseDups_concat, hmem, ih]

theorem eraseDups_append_of_subset (h : again ⊆ xs) : (xs ++ again).eraseDups = xs.eraseDups := by
  induction again using List.reverseRecOn with
  | nil => rw [List.append_nil]
  | append_singleton again x ih =>
    have hx : x ∈ xs ++ again := List.mem_append_left _ (h (by simp))
    rw [← List.append_assoc, eraseDups_concat, if_pos hx, ih fun y hy => h (by simp [hy])]

end FirstOccurrences

namespace Plan

/-- Of all tags in the lists, in order, those that have not been met before. -/
structure Gathers (lists : List (List String)) (tags : List String) : Prop where
  firsts : tags = firstOccurrences lists.flatten
  nodup : tags.Nodup
  mem : ∀ tag, tag ∈ tags ↔ ∃ list ∈ lists, tag ∈ list
  order : tags.Pairwise (lists.flatten.idxOf · < lists.flatten.idxOf ·)

theorem mergeTags_gathers (lists : List (List String)) : Gathers lists (mergeTags lists) where
  firsts := eraseDups_eq_firstOccurrences _
  nodup := nodup_eraseDups _
  mem tag := by rw [mergeTags, List.mem_eraseDups, List.mem_flatten]
  order := pairwise_idxOf_eraseDups _

theorem mergeTags_merged (xs ys : List (List String)) :
    mergeTags ([mergeTags xs] ++ ys) = mergeTags (xs ++ ys) := by
  rw [mergeTags, mergeTags, mergeTags, List.flatten_append, List.flatten_append, List.flatten_singleton]
  exact eraseDups_append_congr (eraseDups_eraseDups _) _

theorem mergeTags_of_subset {before : List (List String)} {tags : List String} (h : tags ⊆ before.flatten)
    (behind : List (List String)) : mergeTags (before ++ tags :: behind) = mergeTags (before ++ behind) := by
  rw [mergeTags, mergeTags, List.flatten_append, List.flatten_append, List.flatten_cons, ← List.append_assoc]
  exact eraseDups_append_congr (eraseDups_append_of_subset h) _

/-- An execution of a node in a document has the tags of all that encloses it and of its scope. -/
inductive Tagged (d : Gherkin.Document) (rule : Option Gherkin.Rule) (e : Execution) : Gherkin.Node → Prop
  | scenario {s : Gherkin.Scenario} (origin : e.origin = .scenario s)
      (tags : Gathers [d.tags, (rule.map (·.tags)).getD [], s.tags, e.scope.details.tags] e.tags) :
      Tagged d rule e (.scenario s)
  | example {o : Gherkin.Outline} {row : Gherkin.Example} {g : Gherkin.ExampleGroup}
      (origin : e.origin = .example row) (hrow : row ∈ o.examples) (hg : g ∈ o.groups)
      (group : ∀ g' ∈ o.groups, row.groupId = g'.id ↔ g' = g)
      (own : Gathers [o.tags, g.tags] row.tags)
      (tags : Gathers [d.tags, (rule.map (·.tags)).getD [], o.tags, g.tags, e.scope.details.tags] e.tags) :
      Tagged d rule e (.outline o)

section Executions

variable {m : Materials} {rule : Option PairedRule} {c : Candidate} {n : Gherkin.Node} {made : Node}

theorem eq_of_mem_groupExamples {o : Gherkin.Outline} (h : ((groupedExamples o).map (·.index)).Nodup)
    {g g' : Gherkin.ExampleGroup} (hg : g ∈ o.groups) (hg' : g' ∈ o.groups) {row : Gherkin.Example}
    (hrow : row ∈ o.examples) (hid : row.groupId = g.id) (hid' : row.groupId = g'.id) : g' = g :=
  eq_of_mem_flatMap (h.of_map _) hg' hg (mem_map_fst_groupExamples.2 ⟨hrow, hid'⟩)
    (mem_map_fst_groupExamples.2 ⟨hrow, hid⟩)

theorem tagged_of_planned {s : Gherkin.Source.Scenario} (hn : Gherkin.Node.ofSource s = .ok n)
    (hplanned : Planned m False rule c n made) (hids : (made.executions.map (·.id)).Nodup) :
    ∀ e ∈ made.executions, Tagged m.document (rule.map (·.rule)) e n := by
  intro e he
  have hrule : ((rule.map (·.rule)).map (·.tags)).getD [] = ruleTags rule := by
    rw [ruleTags, Option.map_map, Function.comp_def]
  obtain ⟨d, hd, steps, rfl, -⟩ := exists_of_mem_right hplanned.settled he
  rcases mem_drafts_cases hd with ⟨s, rfl, rfl⟩ | ⟨o, g, row, cells, rfl, hg, hcells, rfl⟩
  · refine .scenario rfl ?_
    rw [hrule]
    exact mergeTags_gathers _
  · obtain ⟨_, ho, -, -, -, hmakes⟩ :=
      Gherkin.Node.ofSource_of_examples (Gherkin.Node.examples_ne_nil_of_outline hn) hn
    cases ho
    have hnodup := hplanned.nodup_groupedExamples hids
    obtain ⟨-, index, hmakes⟩ := makes_of_mem_groupExamples hmakes hnodup hg hcells
    have hown : row.tags = mergeTags [o.tags, g.tags] := by simp [hmakes.tags, mergeTags]
    have hrow : row ∈ o.examples :=
      (mem_map_fst_groupExamples.1 (List.mem_map_of_mem (f := Prod.fst) hcells)).1
    have hgroup : ∀ g' ∈ o.groups, row.groupId = g'.id ↔ g' = g := fun g' hg' =>
      ⟨eq_of_mem_groupExamples hnodup hg hg' hrow hmakes.groupId, fun heq => heq ▸ hmakes.groupId⟩
    refine .example rfl hrow hg hgroup (hown ▸ mergeTags_gathers _) ?_
    -- The tags that the example was given are those of the outline and of the group in front of them.
    have hsubset : row.tags ⊆ [m.document.tags, ruleTags rule, o.tags, g.tags].flatten := by
      intro tag htag
      rw [hown, mergeTags, List.mem_eraseDups] at htag
      simp only [List.flatten_cons, List.flatten_nil, List.append_nil, List.mem_append] at htag ⊢
      exact .inr (.inr htag)
    have hgathers : Gathers [m.document.tags, ruleTags rule, o.tags, g.tags, c.scope.details.tags]
        (mergeTags [m.document.tags, ruleTags rule, o.tags, g.tags, row.tags, c.scope.details.tags]) :=
      mergeTags_of_subset hsubset [c.scope.details.tags] ▸ mergeTags_gathers _
    rw [hrule]
    exact hgathers

/-- Merged tags are all tags where they first occur, whatever was merged before; and in a plan of a written
feature, the executions of every scenario and of every outline have the tags of all that encloses them, and
those that the examples of an outline were given with it add nothing. -/
theorem tags_gathered :
    (∀ lists, Gathers lists (mergeTags lists)) ∧
    (∀ xs ys, mergeTags ([mergeTags xs] ++ ys) = mergeTags (xs ++ ys)) ∧
    ∀ m source path μ plan, Gherkin.Document.ofSource source path = .ok m.document →
      ((assemble m).outcome μ).1 = .ok plan →
        plan.executions = plan.feature.places.flatMap (·.2.executions) ∧
        List.Forall₂ (fun place made => ∀ e ∈ made.2.executions, Tagged m.document place.1 e place.2)
          m.document.places plan.feature.places := by
  refine ⟨mergeTags_gathers, mergeTags_merged, fun m source path μ plan hd h => ?_⟩
  obtain ⟨hexecutions, hplanned⟩ := places_of_ok (show Kept m False μ from nofun) h
  obtain ⟨_, _, hassembled⟩ := assembled_of_ok h
  have hids := hassembled.coherent.ids
  rw [hexecutions, List.map_flatMap] at hids
  refine ⟨hexecutions, forall₂_of_mem (fun (rule, n) hplace made hmade hplanned => ?_) hplanned⟩
  obtain ⟨rule, c, rfl, -, hplanned⟩ := hplanned
  obtain ⟨written, -, -, hn⟩ := exists_of_mem_right (Gherkin.Document.ofSource_eq_ok hd).2 hplace
  exact tagged_of_planned hn hplanned ((List.nodup_flatMap.1 hids).1 made hmade)

end Executions

section TeaHouse

def teaHouse : Gherkin.Source.Feature where
  keyword := "Feature"
  name := "Tea house"
  description := none
  tags := ["house", "slow"]
  background := none
  scenarios := []
  rules := [{
    keyword := "Rule", name := "Prices", tags := ["slow", "tea"], background := none
    scenarios := [{
      keyword := "Scenario Outline", name := "Cost of <item>", tags := ["house", "cost"], steps := []
      examples := [{
        keyword := "Examples", name := "", tags := ["cost", "cheap"], table := [["item"], ["tea"]]
        line := 8 }]
      line := 6 }]
    line := 3 }]

def teaHouseFeature : Scope :=
  { id := ⟨"feature-1"⟩, kind := .feature, name := "Tea house", mode := .standard }

def teaHouseRule : Scope := { id := ⟨"rule-1"⟩, kind := .rule, name := "Prices", mode := .standard }

def teaHouseMaterials : Materials where
  document := (Gherkin.Document.ofSource teaHouse).toOption.getD default
  feature := teaHouseFeature
  candidates := [{
    scope :=
      { id := ⟨"scenarioOutline-1"⟩, kind := .outline, name := "Cost of <item>", mode := .standard
        details := { tags := ["cheap", "own"] } }
    feature := teaHouseFeature, rule := some teaHouseRule, ancestors := [teaHouseFeature, teaHouseRule]
    steps := [] }]
  parameters := {}

theorem teaHouse_gathered : Gherkin.Document.ofSource teaHouse none = .ok teaHouseMaterials.document ∧
    ∃ plan, ((assemble teaHouseMaterials).outcome {}).1 = .ok plan ∧
      plan.executions.map (·.tags) = [["house", "slow", "tea", "cost", "cheap", "own"]] ∧
      ∀ e ∈ plan.executions, ∃ place ∈ teaHouseMaterials.document.places,
        Tagged teaHouseMaterials.document place.1 e place.2 := by
  have hsource : Gherkin.Document.ofSource teaHouse none = .ok teaHouseMaterials.document := by decide +kernel
  have htags : (((assemble teaHouseMaterials).outcome {}).1.toOption.map fun plan =>
      plan.executions.map (·.tags)) = some [["house", "slow", "tea", "cost", "cheap", "own"]] := by
    decide +kernel
  obtain ⟨plan, hplan, htags⟩ := Option.map_eq_some_iff.1 htags
  have hplan := eq_ok_of_toOption hplan
  refine ⟨hsource, plan, hplan, htags, fun e he => ?_⟩
  obtain ⟨hexecutions, htagged⟩ := tags_gathered.2.2 _ _ _ _ _ hsource hplan
  rw [hexecutions] at he
  obtain ⟨made, hmade, he⟩ := List.mem_flatMap.1 he
  obtain ⟨place, hplace, htagged⟩ := exists_of_mem_right htagged hmade
  exact ⟨place, hplace, htagged e he⟩

end TeaHouse

end Plan
end FeaturePlan
