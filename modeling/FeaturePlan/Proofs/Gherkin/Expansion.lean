import FeaturePlan.Gherkin.Expansion
import FeaturePlan.Proofs.Gherkin.Places
import FeaturePlan.Proofs.Lists
import FeaturePlan.Proofs.Text

/-!
What expansion makes of outlines. The examples of every outline in a document are numbered from zero on,
and each belongs to a group of its outline. There is one for each row of the groups, and its steps are those
of the outline with the cells of the row in place of the placeholders.
-/
namespace FeaturePlan
namespace Gherkin

structure Outline.Expanded (o : Outline) : Prop where
  numbered : o.examples.map (·.index) = List.range o.examples.length
  grouped : ∀ e ∈ o.examples, ∃ g ∈ o.groups, g.id = e.groupId

def Node.Expanded : Node → Prop
  | .scenario _ => True
  | .outline o => o.Expanded

/-- The texts of a step that may have placeholders, in the order in which they are filled in. -/
def Step.texts (s : Step) : List String := s.text :: (s.docString.toList ++ s.table.toList.flatten.flatten)

structure Step.Filled (value? : String → Option String) (template step : Step) : Prop where
  keyword : step.keyword = template.keyword
  type : step.type = template.type
  conjunction : step.conjunction = template.conjunction
  line : step.line = template.line
  text : Text.Interpolated value? template.text.toList step.text.toList
  docString : Option.Rel (fun s s' => Text.Interpolated value? s.toList s'.toList)
    template.docString step.docString
  table : Option.Rel
    (List.Forall₂ (List.Forall₂ fun s s' => Text.Interpolated value? s.toList s'.toList))
    template.table step.table

theorem Outline.interpolated_of_interpolate {o : Outline} {values : List (String × String)} {line : Nat}
    {text filled : String} (h : o.interpolate values line text = .ok filled) :
    Text.Interpolated (fun name => values.lookup name) text.toList filled.toList :=
  Text.fillTemplate_eq_ok_iff.1 (except_mapError_eq_ok h)

theorem Step.filled_of_fill {o : Outline} {values : List (String × String)} {line : Nat}
    {template step : Step} (h : template.fill (o.interpolate values line) = .ok step) :
    Step.Filled (fun name => values.lookup name) template step := by
  obtain ⟨text, htext, h⟩ := except_bind_eq_ok h
  obtain ⟨docString, hdocString, h⟩ := except_bind_eq_ok h
  obtain ⟨table, htable, h⟩ := except_bind_eq_ok h
  cases h
  refine ⟨rfl, rfl, rfl, rfl, Outline.interpolated_of_interpolate htext, ?_, ?_⟩
  · exact rel_of_mapM_eq_ok hdocString fun _ _ => Outline.interpolated_of_interpolate
  · refine rel_of_mapM_eq_ok htable fun rows rows' hrows => ?_
    refine (forall₂_of_mapM_eq_ok hrows).imp fun cells cells' hcells => ?_
    exact (forall₂_of_mapM_eq_ok hcells).imp fun _ _ => Outline.interpolated_of_interpolate

structure Example.OfRow (template : List Step) (row : (ExampleGroup × List String) × Nat) (e : Example) :
    Prop where
  index : e.index = row.2
  groupId : e.groupId = row.1.1.id
  steps : List.Forall₂ (Step.Filled fun name => (row.1.1.values row.1.2).lookup name) template e.steps

theorem Example.map_index {template : List Step} {rows : List (ExampleGroup × List String)}
    {examples : List Example} (h : List.Forall₂ (Example.OfRow template) rows.zipIdx examples) :
    examples.map (·.index) = List.range rows.length := by
  rw [← map_eq_map_of_forall₂ h fun _ _ he => he.index.symm, List.zipIdx_map_snd, List.range_eq_range']

theorem Example.map_groupId {template : List Step} {rows : List (ExampleGroup × List String)}
    {examples : List Example} (h : List.Forall₂ (Example.OfRow template) rows.zipIdx examples) :
    examples.map (·.groupId) = rows.map (·.1.id) := by
  rw [← map_eq_map_of_forall₂ (f := fun x => x.1.1.id) h fun _ _ he => he.groupId.symm]
  conv_rhs => rw [← List.zipIdx_map_fst 0 rows, List.map_map]
  rfl

/-- What a row makes of an outline, whose texts and name have the cells of the row in place of their
placeholders. -/
structure Outline.Makes (o : Outline) (row : (ExampleGroup × List String) × Nat) (e : Example) : Prop
    extends e.OfRow o.steps row where
  name : Text.Interpolated (fun name => (row.1.1.values row.1.2).lookup name) o.name.toList e.name.toList
  tags : e.tags = (o.tags ++ row.1.1.tags).eraseDups

theorem Outline.makes_of_example {o : Outline} {index : Nat} {g : ExampleGroup} {row : List String}
    {e : Example} (h : o.example index g row = .ok e) : o.Makes ((g, row), index) e := by
  obtain ⟨steps, hsteps, h⟩ := except_bind_eq_ok h
  obtain ⟨name, hname, h⟩ := except_bind_eq_ok h
  cases h
  refine ⟨⟨rfl, rfl, (forall₂_of_mapM_eq_ok hsteps).imp fun template step hstep => ?_⟩, ?_, rfl⟩
  · exact Step.filled_of_fill hstep
  · exact interpolated_of_interpolate hname

theorem Outline.makes_of_expand {o o' : Outline} (h : o.expand = .ok o') :
    ∃ examples, o' = { o with examples } ∧ List.Forall₂ o.Makes o.rows.zipIdx examples := by
  obtain ⟨examples, hexamples, h⟩ := except_bind_eq_ok h
  cases h
  exact ⟨examples, rfl, (forall₂_of_mapM_eq_ok hexamples).imp fun _ _ => makes_of_example⟩

theorem Outline.ofRow_of_expand {o o' : Outline} (h : o.expand = .ok o') :
    ∃ examples, o' = { o with examples } ∧
      List.Forall₂ (Example.OfRow o.steps) o.rows.zipIdx examples := by
  obtain ⟨examples, ho, hrows⟩ := makes_of_expand h
  exact ⟨examples, ho, hrows.imp fun _ _ hmakes => hmakes.toOfRow⟩

theorem Outline.expand_expanded {o o' : Outline} (h : o.expand = .ok o') : o'.Expanded := by
  obtain ⟨examples, rfl, hrows⟩ := ofRow_of_expand h
  have hlength : o.rows.length = examples.length := by simpa using hrows.length_eq
  constructor
  · rw [Example.map_index hrows, hlength]
  · intro e he
    obtain ⟨⟨⟨g, row⟩, index⟩, hx, hex⟩ := exists_of_mem_right hrows he
    obtain ⟨g', hg', hrow⟩ := List.mem_flatMap.1 (List.fst_mem_of_mem_zipIdx hx)
    obtain ⟨row', -, heq⟩ := List.mem_map.1 hrow
    cases heq
    exact ⟨g, hg', hex.groupId.symm⟩

theorem Node.ofSource_expanded {s : Source.Scenario} {n : Node} (h : Node.ofSource s = .ok n) :
    n.Expanded := by
  unfold Node.ofSource at h
  split at h
  · cases h
    trivial
  · obtain ⟨o, ho, rfl⟩ := except_map_eq_ok h
    exact Outline.expand_expanded ho

theorem Node.examples_ne_nil_of_outline {s : Source.Scenario} {o : Outline}
    (h : Node.ofSource s = .ok (.outline o)) : s.examples ≠ [] := by
  intro hs
  rw [ofSource, if_pos (by simp [hs])] at h
  cases h

theorem Node.ofSource_of_examples {s : Source.Scenario} {n : Node} (hs : s.examples ≠ [])
    (h : Node.ofSource s = .ok n) :
    ∃ o, n = .outline o ∧ o.name = s.name ∧ o.groups = s.examples.map ExampleGroup.ofSource ∧
      o.steps = s.steps.map Step.ofSource ∧ List.Forall₂ o.Makes o.rows.zipIdx o.examples := by
  rw [Node.ofSource, if_neg (by simpa using hs)] at h
  obtain ⟨o, ho, rfl⟩ := except_map_eq_ok h
  obtain ⟨examples, rfl, hrows⟩ := Outline.makes_of_expand ho
  exact ⟨_, rfl, rfl, rfl, rfl, hrows.imp fun _ _ hmakes => ⟨hmakes.toOfRow, hmakes.name, hmakes.tags⟩⟩

def Source.Part.places : Source.Part → List (Option Source.Rule × Source.Scenario)
  | .scenario s => [(none, s)]
  | .rule r => (byLine Source.Scenario.line r.scenarios).map (some r, ·)

/-- The scenarios of a written feature in the order of the document, each with the rule around it. -/
def Source.Feature.places (f : Source.Feature) : List (Option Source.Rule × Source.Scenario) :=
  f.parts.flatMap Source.Part.places

def MadeOf (written : Option Source.Rule × Source.Scenario) (place : Option Rule × Node) : Prop :=
  place.1.bind (·.background) = (written.1.bind (·.background)).map Background.ofSource ∧
    Node.ofSource written.2 = .ok place.2

theorem Element.places_madeOf {p : Source.Part} {e : Element} (h : Element.ofSource p = .ok e) :
    List.Forall₂ MadeOf p.places e.places := by
  cases p with
  | scenario s =>
    obtain ⟨n, hn, rfl⟩ := except_map_eq_ok h
    exact .cons ⟨rfl, hn⟩ .nil
  | rule s =>
    obtain ⟨r, hr, rfl⟩ := except_map_eq_ok h
    obtain ⟨nodes, hnodes, hr⟩ := except_bind_eq_ok hr
    cases hr
    rw [Source.Part.places, places, List.forall₂_map_left_iff, List.forall₂_map_right_iff]
    exact (forall₂_of_mapM_eq_ok hnodes).imp fun _ _ hn => ⟨rfl, hn⟩

theorem Document.ofSource_eq_ok {f : Source.Feature} {path : Option String} {d : Document}
    (h : Document.ofSource f path = .ok d) :
    d.background = f.background.map Background.ofSource ∧ List.Forall₂ MadeOf f.places d.places := by
  obtain ⟨elements, helements, h⟩ := except_bind_eq_ok h
  cases h
  exact ⟨rfl, List.rel_flatMap (forall₂_of_mapM_eq_ok helements) fun _ _ => Element.places_madeOf⟩

theorem Document.ofSource_expanded {f : Source.Feature} {path : Option String} {d : Document}
    (h : Document.ofSource f path = .ok d) : ∀ place ∈ d.places, place.2.Expanded := by
  intro place hplace
  obtain ⟨written, -, -, hmade⟩ := exists_of_mem_right (ofSource_eq_ok h).2 hplace
  exact Node.ofSource_expanded hmade

end Gherkin
end FeaturePlan
