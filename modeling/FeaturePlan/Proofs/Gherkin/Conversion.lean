import FeaturePlan.Proofs.Gherkin.Expansion

/-!
What a written feature is converted to. Its scenarios and rules stand in the order of their lines, each of
them once, and all that is written of them is carried over. A feature cannot be converted exactly if one of
its outlines cannot be expanded, and the first of these in the order of the document tells why.
-/
namespace FeaturePlan
namespace Gherkin

section Order

variable {α : Type} {line : α → Nat} {things ordered ordered' : List α}

/-- The same things in the order of their lines. Those of one line keep the order they are given in. -/
structure InLineOrder (line : α → Nat) (things ordered : List α) : Prop where
  perm : ordered.Perm things
  ascending : ordered.Pairwise (line · ≤ line ·)
  stable : ∀ n, ordered.filter (line · = n) = things.filter (line · = n)

theorem byLine_inLineOrder (line : α → Nat) (things : List α) :
    InLineOrder line things (byLine line things) :=
  ⟨List.mergeSort_perm _ _, pairwise_mergeSort_key line things, filter_mergeSort_key line things⟩

theorem InLineOrder.unique (h : InLineOrder line things ordered) (h' : InLineOrder line things ordered') :
    ordered = ordered' := by
  have hperm : ordered.Perm ordered' := h.perm.trans h'.perm.symm
  have hlines : ordered.map line = ordered'.map line := by
    refine List.Perm.eq_of_pairwise (fun _ _ _ _ => Nat.le_antisymm) ?_ ?_ (hperm.map line)
    · exact List.pairwise_map.2 h.ascending
    · exact List.pairwise_map.2 h'.ascending
  have hbegins : ordered <+: ordered' := by
    refine prefix_of_filter_prefix line id id (fun _ _ _ hx => hx) (hlines ▸ List.prefix_rfl) fun n => ?_
    simp only [id, h.stable n, h'.stable n]
    exact List.prefix_rfl
  exact hbegins.eq_of_length hperm.length_eq

end Order

/-- A step is carried over, its keyword without the white space around it. -/
structure Step.Conveys (s : Source.Step) (t : Step) : Prop where
  keyword : t.keyword = Text.trim s.keyword
  conjunction : t.conjunction = true ↔ t.keyword = "And" ∨ t.keyword = "But" ∨ t.keyword = "*"
  type : t.type = s.type
  text : t.text = s.text
  docString : t.docString = s.docString
  table : t.table = s.table
  line : t.line = s.line

structure Background.Conveys (b : Source.Background) (c : Background) : Prop where
  keyword : c.keyword = b.keyword
  steps : List.Forall₂ Step.Conveys b.steps c.steps

/-- The first row of a table is the header. -/
structure ExampleGroup.Conveys (t : Source.Examples) (g : ExampleGroup) : Prop where
  id : g.id = "examples-" ++ toString t.line
  keyword : g.keyword = t.keyword
  name : g.name = t.name
  tags : g.tags = t.tags
  table : t.table = g.header :: g.rows ∨ t.table = [] ∧ g.header = [] ∧ g.rows = []

/-- What a scenario is converted to. It is an outline if it has examples and a scenario if it has none. -/
inductive Node.Conveys (s : Source.Scenario) : Node → Prop
  | scenario {t : Scenario} (hexamples : s.examples = []) (keyword : t.keyword = s.keyword)
      (name : t.name = s.name) (tags : t.tags = s.tags) (line : t.line = s.line)
      (steps : List.Forall₂ Step.Conveys s.steps t.steps) : Conveys s (.scenario t)
  | outline {o : Outline} (hexamples : s.examples ≠ []) (keyword : o.keyword = s.keyword)
      (name : o.name = s.name) (tags : o.tags = s.tags) (line : o.line = s.line)
      (steps : List.Forall₂ Step.Conveys s.steps o.steps)
      (groups : List.Forall₂ ExampleGroup.Conveys s.examples o.groups)
      (examples : List.Forall₂ o.Makes o.rows.zipIdx o.examples) : Conveys s (.outline o)

structure Rule.Conveys (r : Source.Rule) (t : Rule) : Prop where
  keyword : t.keyword = r.keyword
  name : t.name = r.name
  tags : t.tags = r.tags
  background : Option.Rel Background.Conveys r.background t.background
  nodes : ∃ scenarios, InLineOrder Source.Scenario.line r.scenarios scenarios ∧
    List.Forall₂ Node.Conveys scenarios t.nodes

inductive Element.Conveys : Source.Part → Element → Prop
  | node {s : Source.Scenario} {n : Node} (h : Node.Conveys s n) : Conveys (.scenario s) (.node n)
  | rule {r : Source.Rule} {t : Rule} (h : Rule.Conveys r t) : Conveys (.rule r) (.rule t)

structure Document.Conveys (f : Source.Feature) (path : Option String) (d : Document) : Prop where
  keyword : d.keyword = f.keyword
  name : d.name = f.name
  description : d.description = f.description
  tags : d.tags = f.tags
  background : Option.Rel Background.Conveys f.background d.background
  elements : ∃ parts,
    InLineOrder Source.Part.line (f.scenarios.map .scenario ++ f.rules.map .rule) parts ∧
      List.Forall₂ Element.Conveys parts d.elements
  path : d.path = path

theorem Step.ofSource_conveys (s : Source.Step) : Step.Conveys s (Step.ofSource s) := by
  refine ⟨rfl, ?_, rfl, rfl, rfl, rfl, rfl⟩
  simp [Step.ofSource, or_assoc]

theorem Step.map_ofSource_conveys (steps : List Source.Step) :
    List.Forall₂ Step.Conveys steps (steps.map Step.ofSource) :=
  List.forall₂_map_right_iff.2 (List.forall₂_same.2 fun s _ => ofSource_conveys s)

theorem Background.ofSource_conveys (b : Option Source.Background) :
    Option.Rel Background.Conveys b (b.map Background.ofSource) := by
  cases b with
  | none => exact .none
  | some b => exact .some ⟨rfl, Step.map_ofSource_conveys b.steps⟩

theorem ExampleGroup.ofSource_conveys (t : Source.Examples) :
    ExampleGroup.Conveys t (ExampleGroup.ofSource t) := by
  refine ⟨rfl, rfl, rfl, rfl, ?_⟩
  unfold ofSource
  cases t.table with
  | nil => exact .inr ⟨rfl, rfl, rfl⟩
  | cons header rows => exact .inl rfl

/-- The outline that a scenario with examples stands for, before its rows make examples of it. -/
def Source.Scenario.template (s : Source.Scenario) : Outline :=
  { keyword := s.keyword, name := s.name, tags := s.tags, steps := s.steps.map Step.ofSource,
    groups := s.examples.map ExampleGroup.ofSource, examples := [], line := s.line }

def Source.Scenario.FailsWith (s : Source.Scenario) (e : DocumentError) : Prop :=
  s.examples ≠ [] ∧ s.template.expand = .error e

theorem Node.ofSource_of_outline {s : Source.Scenario} (h : s.examples ≠ []) :
    Node.ofSource s = s.template.expand.map .outline := by
  rw [ofSource, if_neg (by simpa using h)]
  rfl

theorem Node.ofSource_conveys {s : Source.Scenario} {n : Node} (h : Node.ofSource s = .ok n) :
    Node.Conveys s n := by
  by_cases hs : s.examples = []
  · rw [ofSource, if_pos (by simp [hs])] at h
    cases h
    exact .scenario hs rfl rfl rfl rfl (Step.map_ofSource_conveys s.steps)
  · rw [ofSource_of_outline hs] at h
    obtain ⟨o, ho, rfl⟩ := except_map_eq_ok h
    obtain ⟨examples, rfl, hexamples⟩ := Outline.makes_of_expand ho
    refine .outline hs rfl rfl rfl rfl (Step.map_ofSource_conveys s.steps) ?_ ?_
    · exact List.forall₂_map_right_iff.2 (List.forall₂_same.2 fun t _ => ExampleGroup.ofSource_conveys t)
    · exact hexamples.imp fun _ _ hmakes => ⟨hmakes.toOfRow, hmakes.name, hmakes.tags⟩

theorem Rule.ofSource_conveys {r : Source.Rule} {t : Rule} (h : Rule.ofSource r = .ok t) :
    Rule.Conveys r t := by
  obtain ⟨nodes, hnodes, h⟩ := except_bind_eq_ok h
  cases h
  refine ⟨rfl, rfl, rfl, Background.ofSource_conveys r.background, _, byLine_inLineOrder _ _, ?_⟩
  exact (forall₂_of_mapM_eq_ok hnodes).imp fun _ _ => Node.ofSource_conveys

theorem Element.ofSource_conveys {p : Source.Part} {e : Element} (h : Element.ofSource p = .ok e) :
    Element.Conveys p e := by
  cases p with
  | scenario s =>
    obtain ⟨n, hn, rfl⟩ := except_map_eq_ok h
    exact .node (Node.ofSource_conveys hn)
  | rule r =>
    obtain ⟨t, ht, rfl⟩ := except_map_eq_ok h
    exact .rule (Rule.ofSource_conveys ht)

theorem Document.conveys_of_ofSource {f : Source.Feature} {path : Option String} {d : Document}
    (h : Document.ofSource f path = .ok d) : Document.Conveys f path d := by
  obtain ⟨elements, helements, h⟩ := except_bind_eq_ok h
  cases h
  refine ⟨rfl, rfl, rfl, rfl, Background.ofSource_conveys f.background, ⟨_, byLine_inLineOrder _ _, ?_⟩, rfl⟩
  exact (forall₂_of_mapM_eq_ok helements).imp fun _ _ => Element.ofSource_conveys

theorem Node.Conveys.name_eq {s : Source.Scenario} {n : Node} (h : Node.Conveys s n) : n.name = s.name := by
  cases h <;> assumption

theorem Node.ofSource_eq_error_iff {s : Source.Scenario} {e : DocumentError} :
    Node.ofSource s = .error e ↔ s.FailsWith e := by
  by_cases hs : s.examples = []
  · rw [ofSource, if_pos (by simp [hs])]
    constructor
    · rintro ⟨⟩
    · exact fun h => absurd hs h.1
  · rw [ofSource_of_outline hs, Source.Scenario.FailsWith, and_iff_right hs]
    cases s.template.expand <;> simp [Except.map]

theorem Element.ofSource_eq_error_iff (p : Source.Part) (e : DocumentError) :
    Element.ofSource p = .error e ↔ (p.places.map (·.2)).mapM Node.ofSource = .error e := by
  cases p with
  | scenario s =>
    rw [Source.Part.places, List.map_singleton, List.mapM_cons, ofSource]
    cases Node.ofSource s <;> simp [Except.map, bind, Except.bind, pure, Except.pure]
  | rule r =>
    rw [Source.Part.places, List.map_map, Function.comp_def, List.map_id', ofSource, Rule.ofSource]
    cases (byLine Source.Scenario.line r.scenarios).mapM Node.ofSource <;>
      simp [Except.map, bind, Except.bind, pure, Except.pure]

/-- A feature fails as the loop over its scenarios in the order of the document does. -/
theorem Document.ofSource_eq_error_iff {f : Source.Feature} {path : Option String} {e : DocumentError} :
    Document.ofSource f path = .error e ↔ (f.places.map (·.2)).mapM Node.ofSource = .error e := by
  rw [Source.Feature.places, List.map_flatMap]
  exact except_bind_pure_eq_error_iff.trans
    (FailsAlike.mapM_flatMap Element.ofSource_eq_error_iff f.parts e)

inductive Source.Part.Visited : Source.Part → List Source.Scenario → Prop
  | scenario (s : Source.Scenario) : Visited (.scenario s) [s]
  | rule {r : Source.Rule} {scenarios : List Source.Scenario}
      (h : InLineOrder Source.Scenario.line r.scenarios scenarios) : Visited (.rule r) scenarios

/-- All scenarios of a feature in the order of the document: a rule stands at its own line, and inside it
its scenarios stand in the order of theirs. -/
def Source.Feature.Visited (f : Source.Feature) (scenarios : List Source.Scenario) : Prop :=
  ∃ parts visited,
    InLineOrder Source.Part.line (f.scenarios.map .scenario ++ f.rules.map .rule) parts ∧
      List.Forall₂ Source.Part.Visited parts visited ∧ visited.flatten = scenarios

theorem Source.Part.visited_iff {p : Source.Part} {scenarios : List Source.Scenario} :
    p.Visited scenarios ↔ p.places.map (·.2) = scenarios := by
  cases p with
  | scenario s =>
    constructor
    · rintro ⟨⟩
      rfl
    · rintro rfl
      exact .scenario s
  | rule r =>
    have hplaces : (Source.Part.rule r).places.map (·.2) = byLine Source.Scenario.line r.scenarios := by
      rw [places, List.map_map]
      exact List.map_id _
    rw [hplaces]
    constructor
    · rintro ⟨⟩
      next h => exact (byLine_inLineOrder _ _).unique h
    · rintro rfl
      exact .rule (byLine_inLineOrder _ _)

theorem Source.Feature.visited_iff {f : Source.Feature} {scenarios : List Source.Scenario} :
    f.Visited scenarios ↔ f.places.map (·.2) = scenarios := by
  have hall (parts : List Source.Part) (visited : List (List Source.Scenario)) :
      List.Forall₂ Source.Part.Visited parts visited ↔ (parts.map fun p => p.places.map (·.2)) = visited := by
    rw [← List.forall₂_eq_eq_eq, List.forall₂_map_left_iff]
    exact ⟨(·.imp fun _ _ => Source.Part.visited_iff.1), (·.imp fun _ _ => Source.Part.visited_iff.2)⟩
  have hflatten : f.places.map (·.2) = (f.parts.map fun p => p.places.map (·.2)).flatten := by
    rw [places, List.map_flatMap, List.flatMap_def]
  constructor
  · rintro ⟨parts, visited, hparts, hvisited, rfl⟩
    obtain rfl := hparts.unique (byLine_inLineOrder _ _)
    rw [hflatten, ← (hall _ _).1 hvisited]
    rfl
  · rintro rfl
    exact ⟨f.parts, _, byLine_inLineOrder _ _, (hall _ _).2 rfl, hflatten.symm⟩

theorem Source.Feature.mem_places_iff {f : Source.Feature} {s : Source.Scenario} :
    s ∈ f.places.map (·.2) ↔ s ∈ f.scenarios ∨ ∃ r ∈ f.rules, s ∈ r.scenarios := by
  have hmem (p : Source.Part) : p ∈ f.parts ↔
      (∃ s ∈ f.scenarios, .scenario s = p) ∨ ∃ r ∈ f.rules, .rule r = p := by
    rw [parts, (byLine_inLineOrder _ _).perm.mem_iff, List.mem_append, List.mem_map, List.mem_map]
  have hrule (r : Source.Rule) : s ∈ (Source.Part.rule r).places.map (·.2) ↔ s ∈ r.scenarios := by
    rw [Source.Part.places, List.map_map]
    exact (List.map_id _).symm ▸ (byLine_inLineOrder _ _).perm.mem_iff
  rw [places, List.map_flatMap, List.mem_flatMap]
  constructor
  · rintro ⟨p, hp, hs⟩
    rcases (hmem p).1 hp with ⟨s', hs', rfl⟩ | ⟨r, hr, rfl⟩
    · exact .inl (List.mem_singleton.1 hs ▸ hs')
    · exact .inr ⟨r, hr, (hrule r).1 hs⟩
  · rintro (hs | ⟨r, hr, hs⟩)
    · exact ⟨.scenario s, (hmem _).2 (.inl ⟨s, hs, rfl⟩), List.mem_singleton_self s⟩
    · exact ⟨.rule r, (hmem _).2 (.inr ⟨r, hr, rfl⟩), (hrule r).2 hs⟩

/-- A feature is converted to a document that carries all of it over in the order of its lines, or it fails
as the first of its outlines that cannot be expanded, and there is no other way to fail. -/
theorem Document.ofSource_conveys_or_fails (f : Source.Feature) (path : Option String) :
    (∀ d, Document.ofSource f path = .ok d → Document.Conveys f path d) ∧
      (∀ e, Document.ofSource f path = .error e ↔
        ∃ before s after, f.Visited (before ++ s :: after) ∧
          (∀ earlier ∈ before, ∀ e', ¬ earlier.FailsWith e') ∧ s.FailsWith e) ∧
      ((∃ e, Document.ofSource f path = .error e) ↔
        ∃ s, (s ∈ f.scenarios ∨ ∃ r ∈ f.rules, s ∈ r.scenarios) ∧ ∃ e, s.FailsWith e) := by
  have hgood (s : Source.Scenario) : (∃ n, Node.ofSource s = .ok n) ↔ ∀ e', ¬ s.FailsWith e' := by
    simp only [← Node.ofSource_eq_error_iff]
    cases Node.ofSource s <;> simp
  refine ⟨fun d => conveys_of_ofSource, fun e => ?_, ?_⟩
  · rw [ofSource_eq_error_iff, mapM_eq_error_iff]
    simp only [hgood, Node.ofSource_eq_error_iff, Source.Feature.visited_iff]
  · simp only [ofSource_eq_error_iff, exists_mapM_eq_error_iff, Node.ofSource_eq_error_iff,
      Source.Feature.mem_places_iff]

section Market

def written (name text : String) (line : Nat) (column : Option String := none) : Source.Scenario where
  keyword := "Scenario"
  name := name
  tags := []
  steps := [{ keyword := "When ", type := .action, text, line := line + 1 }]
  examples := column.toList.map fun c =>
    { keyword := "Examples", name := "", tags := [], table := [[c], ["figs"]], line := line + 2 }
  line := line

def guests (column : String) : Source.Rule where
  keyword := "Rule"
  name := "Guests"
  tags := []
  background := none
  scenarios := [written "Leave" "I leave <fruit>" 20 (some column), written "Enter" "I enter" 5]
  line := 4

def market (column : String) : Source.Feature where
  keyword := "Feature"
  name := "Market"
  description := some "Stalls"
  tags := ["@open"]
  background := some
    { keyword := "Background", steps := [{ keyword := "* ", type := .context, text := "a stall", line := 2 }] }
  scenarios := [written "Weigh" "I weigh <fruit>" 9 (some column), written "Pay" "I pay" 4]
  rules := [guests column]

theorem market_visited (column : String) :
    (market column).Visited [written "Pay" "I pay" 4, written "Enter" "I enter" 5,
      written "Leave" "I leave <fruit>" 20 (some column), written "Weigh" "I weigh <fruit>" 9 (some column)] := by
  refine ⟨[.scenario (written "Pay" "I pay" 4), .rule (guests column),
    .scenario (written "Weigh" "I weigh <fruit>" 9 (some column))], _, ⟨?_, ?_, fun n => ?_⟩,
    .cons (.scenario _) (.cons (.rule ⟨.swap _ _ _, ?_, fun n => ?_⟩) (.cons (.scenario _) .nil)), rfl⟩
  · exact @List.perm_append_comm _ [_, _] [_]
  · simp [Source.Part.line, guests, written]
  · -- Only in line 4 there are two of them.
    by_cases h : 4 = n
    · subst h
      rfl
    · simp [market, List.filter_cons, Source.Part.line, guests, written, h]
  · simp [written]
  · by_cases h : 5 = n
    · subst h
      rfl
    · simp [guests, List.filter_cons, written, h]

theorem market_conveyed :
    (∃ d, Document.ofSource (market "fruit") none = .ok d ∧ Document.Conveys (market "fruit") none d ∧
      d.places.map (·.2.name) = ["Pay", "Enter", "Leave", "Weigh"]) ∧
    ∃ before s after, (market "fruits").Visited (before ++ s :: after) ∧
      (∀ earlier ∈ before, ∀ e', ¬ earlier.FailsWith e') ∧
      s.FailsWith (.unknownPlaceholder "fruit" 21 "Leave") := by
  constructor
  · have hvisited := Source.Feature.visited_iff.1 (market_visited "fruit")
    have hok : (((market "fruit").places.map (·.2)).mapM Node.ofSource).isOk = true := by
      rw [hvisited]
      decide +kernel
    cases hd : Document.ofSource (market "fruit") none with
    | error e =>
      rw [Document.ofSource_eq_error_iff.1 hd] at hok
      cases hok
    | ok d =>
      have hnames : (market "fruit").places.map (·.2.name) = d.places.map (·.2.name) :=
        map_eq_map_of_forall₂ (Document.ofSource_eq_ok hd).2 fun _ _ hmade =>
          (Node.ofSource_conveys hmade.2).name_eq.symm
      refine ⟨d, rfl, (Document.ofSource_conveys_or_fails _ none).1 d hd, ?_⟩
      calc d.places.map (·.2.name)
        _ = ((market "fruit").places.map (·.2)).map Source.Scenario.name := by rw [← hnames, List.map_map]; rfl
        _ = ["Pay", "Enter", "Leave", "Weigh"] := by rw [hvisited]; rfl
  · refine ((Document.ofSource_conveys_or_fails _ none).2.1 _).1 (Document.ofSource_eq_error_iff.2 ?_)
    rw [Source.Feature.visited_iff.1 (market_visited "fruits")]
    decide +kernel

end Market

end Gherkin
end FeaturePlan
