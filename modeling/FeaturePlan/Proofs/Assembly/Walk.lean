import FeaturePlan.Proofs.Assembly.Demand
import FeaturePlan.Proofs.Assembly.Draft
import FeaturePlan.Proofs.Lists
import FeaturePlan.Proofs.Queues

/-!
The walk through a document. What every step of it keeps is that the candidates given out so far under a
key are the first ones of that key and the others still wait, and likewise for rules; so after any number
of demands the state is known from the demands alone. A walk ends behind its last demand, or at the first
unmet one, or earlier at a step without a definition or at an identity that is taken.
-/
namespace FeaturePlan
namespace Plan

/-- A node with the rule around it, and the candidate that it is paired with. -/
structure Position where
  rule : Option PairedRule
  node : Gherkin.Node
  candidate : Candidate

namespace Position

def place (p : Position) : Option PairedRule × Gherkin.Node := (p.rule, p.node)

def key (p : Position) : PairKey := placeKey p.place

def drafts (m : Materials) (p : Position) : List Draft := Plan.drafts m p.rule p.candidate p.node

end Position

structure Placement extends Position where
  made : Node

inductive Planned (m : Materials) (tidy : Prop) (rule : Option PairedRule) (c : Candidate) :
    Gherkin.Node → Node → Prop
  | scenario {s : Gherkin.Scenario} {e : Execution} (h : Settled m tidy c (scenarioDraft m rule s c) e) :
      Planned m tidy rule c (.scenario s) (.scenario e)
  | outline {o : Gherkin.Outline} {es : List Execution}
      (h : List.Forall₂ (Settled m tidy c) (drafts m rule c (.outline o)) es) :
      Planned m tidy rule c (.outline o) (.outline ⟨o.keyword, o.name, o.tags, c.scope, es⟩)

theorem Planned.settled {m : Materials} {tidy : Prop} {rule : Option PairedRule} {c : Candidate}
    {n : Gherkin.Node} {made : Node} (h : Planned m tidy rule c n made) :
    List.Forall₂ (Settled m tidy c) (drafts m rule c n) made.executions := by
  cases h with
  | scenario h => exact .cons h .nil
  | outline h => exact h

/-- Where the walk stands after the given demands, with the nodes among them placed as they are. -/
structure Stands (m : Materials) (tidy : Prop) (done : List Demand) (ws : List Placement)
    (s : Assembly) : Prop where
  nodes : done.filterMap Demand.node? = ws.map (·.place)
  keys : ∀ w ∈ ws, PairKey.ofCandidate w.candidate = w.key
  waiting : ∀ key, (ws.map (·.candidate)).filter (PairKey.ofCandidate · = key) ++
    s.candidates.waiting key = m.candidatesUnder key
  rules : ∀ name, s.rules.waiting name =
    (m.rulesNamed name).drop ((done.map Demand.key).count (.rule name))
  lanes : s.candidates.lanes.keys = (m.candidates.map PairKey.ofCandidate).eraseDups
  planned : ∀ w ∈ ws, Planned m tidy w.rule w.candidate w.node w.made
  executions : s.executions = ws.flatMap (·.made.executions)
  indexed : s.Indexed
  met : ∀ before d after, done = before ++ d :: after → ¬ d.Unmet m before

theorem met_concat {m : Materials} {done : List Demand} {d : Demand}
    (h : ∀ before x after, done = before ++ x :: after → ¬ x.Unmet m before) (hd : ¬ d.Unmet m done) :
    ∀ before x after, done ++ [d] = before ++ x :: after → ¬ x.Unmet m before := by
  intro before x after he
  rcases concat_eq_append_cons_iff.1 he with ⟨rfl, rfl, -⟩ | ⟨after, he, -⟩
  · exact hd
  · exact h before x after he

theorem stands_start (m : Materials) (tidy : Prop) : Stands m tidy [] [] (.start m.candidates) where
  nodes := rfl
  keys := by simp
  waiting key := by simp [Assembly.start, Queues.waiting_ofList, Materials.candidatesUnder]
  rules name := by simp [Assembly.start, Queues.waiting_ofList, Materials.rulesNamed]
  lanes := Queues.keys_ofList PairKey.ofCandidate m.candidates
  planned := by simp
  executions := rfl
  indexed := ⟨rfl, rfl, ⟨.nil, .nil⟩⟩
  met := by simp

namespace Stands

variable {m : Materials} {tidy : Prop} {done : List Demand} {ws : List Placement} {s : Assembly}

theorem count_node (h : Stands m tidy done ws s) (key : PairKey) :
    (done.map Demand.key).count (.node key) =
      ((ws.map (·.candidate)).filter (PairKey.ofCandidate · = key)).length := by
  have hkeys : (ws.map (·.place)).map placeKey = (ws.map (·.candidate)).map PairKey.ofCandidate := by
    rw [List.map_map, List.map_map]
    exact List.map_congr_left fun w hw => (h.keys w hw).symm
  rw [Demand.count_node, h.nodes, hkeys, count_map_eq_length_filter]

theorem unmet_node_iff (h : Stands m tidy done ws s) (rule : Option PairedRule) (n : Gherkin.Node) :
    (Demand.node rule n).Unmet m done ↔
      s.candidates.waiting (placeKey (rule, n)) = [] := by
  have hw := congrArg List.length (h.waiting (placeKey (rule, n)))
  rw [List.length_append, ← h.count_node] at hw
  simp only [Demand.Unmet, Demand.Needed, and_true, Demand.key, Materials.supply]
  rw [← List.length_eq_zero_iff]
  omega

end Stands

/-- A candidate is the next one of its key, and stands under the key of the node. -/
structure Next (m : Materials) (ws : List Placement) (rule : Option PairedRule) (n : Gherkin.Node)
    (c : Candidate) : Prop where
  key : PairKey.ofCandidate c = placeKey (rule, n)
  order : (ws.map (·.candidate) ++ [c]).filter (PairKey.ofCandidate · = PairKey.ofCandidate c) <+:
    m.candidatesUnder (PairKey.ofCandidate c)

inductive Fault (m : Materials) (tidy : Prop) (done : List Demand) (ws : List Placement) (d : Demand) :
    PlanError → Prop
  | unmet (h : d.Unmet m done) : Fault m tidy done ws d (.pairing (d.error m))
  | step {rule : Option PairedRule} {n : Gherkin.Node} {c : Candidate} (hd : d = .node rule n)
      (hc : Next m ws rule n c)
      (h : tidy → ∃ x ∈ drafts m rule c n, ¬ ∃ steps, Resolves m c x steps) (cause : StepError) :
      Fault m tidy done ws d (.step cause)
  | identity {rule : Option PairedRule} {n : Gherkin.Node} {c : Candidate} (hd : d = .node rule n)
      (hc : Next m ws rule n c)
      (h : ¬ Distinct (ws.flatMap (fun w => (w.drafts m).map Draft.identity) ++
        (drafts m rule c n).map Draft.identity)) (cause : IdentityError) :
      Fault m tidy done ws d (.identity cause)

section Nodes

variable {m : Materials} {tidy : Prop} {done : List Demand} {ws : List Placement} {s : Assembly}
  {μ : Matchers}

theorem takeCandidate_outcome (m : Materials) (rule : Option PairedRule) (n : Gherkin.Node)
    (s : Assembly) (μ : Matchers) :
    Matching.outcome ((takeCandidate m n.kind n.name rule).run s) μ =
      match s.candidates.take (placeKey (rule, n)) with
      | (some c, candidates) => (.ok (c, { s with candidates }), μ)
      | (none, _) => (.error (.pairing ((Demand.node rule n).error m)), μ) := by
  unfold takeCandidate
  rcases h : s.candidates.take (placeKey (rule, n)) with ⟨_ | c, q⟩ <;>
    rw [placeKey] at h <;> simp [Matching.outcome, h] <;> rfl

/-- The state once the next candidate of a key is taken, before the executions of its node are added. -/
structure Handed (m : Materials) (ws : List Placement) (s : Assembly) (c : Candidate) (s' : Assembly) :
    Prop where
  waiting : ∀ key, (ws.map (·.candidate) ++ [c]).filter (PairKey.ofCandidate · = key) ++
    s'.candidates.waiting key = m.candidatesUnder key
  lanes : s'.candidates.lanes.keys = s.candidates.lanes.keys
  rules : s'.rules = s.rules
  executions : s'.executions = s.executions
  indexed : s'.Indexed

theorem Stands.handed (hs : Stands m tidy done ws s) {key : PairKey} {c : Candidate}
    {rest : List Candidate} {q : Queues PairKey Candidate} (hrest : s.candidates.waiting key = c :: rest)
    (hq : ∀ key', q.waiting key' = if key' = key then rest else s.candidates.waiting key')
    (hkeys : q.lanes.keys = s.candidates.lanes.keys) :
    PairKey.ofCandidate c = key ∧ Handed m ws s c { s with candidates := q } := by
  have hkey : PairKey.ofCandidate c = key := by
    have hmem : c ∈ m.candidatesUnder key := by
      rw [← hs.waiting key, hrest]
      exact List.mem_append_right _ List.mem_cons_self
    simpa using (List.mem_filter.1 hmem).2
  refine ⟨hkey, ⟨fun key' => ?_, hkeys, rfl, rfl, ⟨hs.indexed.byId, hs.indexed.byName, hs.indexed.distinct⟩⟩⟩
  rw [← hs.waiting key', hq key', List.filter_append, List.append_assoc]
  by_cases h : key' = key
  · subst h
    simp [hkey, hrest]
  · simp [h, hkey, Ne.symm h]

theorem takeCandidate_ensures (hs : Stands m tidy done ws s) (rule : Option PairedRule)
    (n : Gherkin.Node) :
    Ensures (takeCandidate m n.kind n.name rule) s μ
      (fun c s' μ' => μ' = μ ∧ ¬ (Demand.node rule n).Unmet m done ∧ Next m ws rule n c ∧
        Handed m ws s c s')
      (fun err μ' => μ' = μ ∧ Fault m tidy done ws (.node rule n) err) := by
  have hunmet := hs.unmet_node_iff rule n
  unfold Ensures
  rw [takeCandidate_outcome]
  rcases s.candidates.take_cases (placeKey (rule, n)) with
    ⟨hempty, htake⟩ | ⟨c, rest, q, hrest, htake, hq, hkeys⟩
  · rw [htake]
    exact ⟨rfl, .unmet (hunmet.2 hempty)⟩
  · rw [htake]
    obtain ⟨hkey, hhanded⟩ := hs.handed hrest hq hkeys
    refine ⟨rfl, fun h => ?_, ⟨hkey, ⟨_, hhanded.waiting _⟩⟩, hhanded⟩
    rw [hunmet, hrest] at h
    cases h

theorem Stands.identities (hs : Stands m tidy done ws s) :
    s.executions.map Execution.identity = ws.flatMap fun w => (w.drafts m).map Draft.identity := by
  rw [hs.executions, List.map_flatMap]
  exact List.flatMap_congr fun w hw => map_identity_of_settled (hs.planned w hw).settled

theorem Stands.node (hs : Stands m tidy done ws s) {rule : Option PairedRule} {n : Gherkin.Node}
    {c : Candidate} {s₁ s₂ : Assembly} {made : Node} (hmet : ¬ (Demand.node rule n).Unmet m done)
    (hc : Next m ws rule n c) (h₁ : Handed m ws s c s₁) (h₂ : s₁.Extends made.executions s₂)
    (hi : s₂.Indexed) (hp : Planned m tidy rule c n made) :
    Stands m tidy (done ++ [.node rule n]) (ws ++ [⟨⟨rule, n, c⟩, made⟩]) s₂ where
  nodes := by simp [hs.nodes, Demand.node?, Position.place]
  keys := by
    intro w hw
    rcases List.mem_append.1 hw with hw | hw
    · exact hs.keys w hw
    · rw [List.mem_singleton.1 hw]
      exact hc.key
  waiting key := by simpa [h₂.candidates] using h₁.waiting key
  rules name := by
    rw [h₂.rules, h₁.rules, hs.rules]
    simp [Demand.key]
  lanes := by rw [h₂.candidates, h₁.lanes, hs.lanes]
  planned := by
    intro w hw
    rcases List.mem_append.1 hw with hw | hw
    · exact hs.planned w hw
    · rw [List.mem_singleton.1 hw]
      exact hp
  executions := by simp [h₂.executions, h₁.executions, hs.executions]
  indexed := hi
  met := met_concat hs.met hmet

/-- Once a node has its candidate, only the drafts of the two can be at fault. -/
theorem Stands.fault (hs : Stands m tidy done ws s) {rule : Option PairedRule} {n : Gherkin.Node}
    {c : Candidate} {s₁ : Assembly} (hc : Next m ws rule n c) (h₁ : Handed m ws s c s₁) {err : PlanError}
    (h : (∃ cause, err = .step cause) ∧ (tidy → ∃ d ∈ drafts m rule c n, ¬ ∃ steps, Resolves m c d steps) ∨
      (∃ cause, err = .identity cause) ∧
        ¬ Distinct (s₁.executions.map Execution.identity ++ (drafts m rule c n).map Draft.identity)) :
    Fault m tidy done ws (.node rule n) err := by
  rcases h with ⟨⟨cause, rfl⟩, h⟩ | ⟨⟨cause, rfl⟩, h⟩
  · exact .step rfl hc h cause
  · rw [h₁.executions, hs.identities] at h
    exact .identity rfl hc h cause

theorem assembleNode_ensures (hs : Stands m tidy done ws s) (hμ : Kept m tidy μ)
    (rule : Option PairedRule) (n : Gherkin.Node) :
    Ensures (assembleNode m rule n) s μ
      (fun made s' μ' => Kept m tidy μ' ∧
        ∃ c, Stands m tidy (done ++ [.node rule n]) (ws ++ [⟨⟨rule, n, c⟩, made⟩]) s')
      (fun err μ' => Kept m tidy μ' ∧ Fault m tidy done ws (.node rule n) err) := by
  -- The node takes its candidate first, and from there on only its own drafts can fail.
  cases n with
  | scenario sc =>
    rw [assembleNode, assembleScenario_eq]
    refine Ensures.map (Ensures.bind ((takeCandidate_ensures hs rule (.scenario sc)).mono ?_ ?_))
    · intro c s₁ μ₁ hpost
      obtain ⟨rfl, hmet, hc, h₁⟩ := hpost
      refine (settle_ensures h₁.indexed hμ c (scenarioDraft m rule sc c)).mono ?_ ?_
      · intro e s₂ μ₂ hpost
        obtain ⟨he, rfl, hi, hk⟩ := hpost
        exact ⟨hk, c, hs.node hmet hc h₁ ⟨rfl, rfl, rfl⟩ hi (.scenario he)⟩
      · intro err μ₂ herr
        obtain ⟨hk, he⟩ := herr
        refine ⟨hk, hs.fault hc h₁ ?_⟩
        simpa [drafts] using he
    · intro err μ₁ herr
      obtain ⟨rfl, he⟩ := herr
      exact ⟨hμ, he⟩
  | outline o =>
    rw [assembleNode, assembleOutline_eq]
    refine Ensures.map (Ensures.bind ((takeCandidate_ensures hs rule (.outline o)).mono ?_ ?_))
    · intro c s₁ μ₁ hpost
      obtain ⟨rfl, hmet, hc, h₁⟩ := hpost
      refine Ensures.bind
        ((settleAll_ensures h₁.indexed hμ c (drafts m rule c (.outline o))).mono ?_ ?_)
      · intro es s₂ μ₂ hpost
        obtain ⟨hes, hx, hi, hk⟩ := hpost
        exact Ensures.pure ⟨hk, c, hs.node hmet hc h₁ hx hi (.outline hes)⟩
      · intro err μ₂ herr
        obtain ⟨hk, he⟩ := herr
        exact ⟨hk, hs.fault hc h₁ he⟩
    · intro err μ₁ herr
      obtain ⟨rfl, he⟩ := herr
      exact ⟨hμ, he⟩

def Stops (m : Materials) (tidy : Prop) (done further : List Demand) (err : PlanError) : Prop :=
  ∃ before d after ws s, further = before ++ d :: after ∧ Stands m tidy (done ++ before) ws s ∧
    Fault m tidy (done ++ before) ws d err

theorem Stops.behind {first further : List Demand} {err : PlanError}
    (h : Stops m tidy (done ++ first) further err) : Stops m tidy done (first ++ further) err := by
  obtain ⟨before, d, after, ws, s, rfl, hs, hf⟩ := h
  rw [List.append_assoc] at hs hf
  exact ⟨first ++ before, d, after, ws, s, by simp, hs, hf⟩

theorem Stops.before {first further : List Demand} {err : PlanError} (h : Stops m tidy done first err) :
    Stops m tidy done (first ++ further) err := by
  obtain ⟨before, d, after, ws, s, rfl, hs, hf⟩ := h
  exact ⟨before, d, after ++ further, ws, s, by simp, hs, hf⟩

theorem assembleNodes_ensures (hs : Stands m tidy done ws s) (hμ : Kept m tidy μ) (pr : PairedRule)
    (ns : List Gherkin.Node) :
    Ensures (ns.mapM (assembleNode m (some pr))) s μ
      (fun made s' μ' => Kept m tidy μ' ∧
        ∃ ws', Stands m tidy (done ++ ns.map (.node (some pr))) (ws ++ ws') s' ∧
          ws'.map (·.place) = ns.map (some pr, ·) ∧ ws'.map (·.made) = made)
      (fun err μ' => Kept m tidy μ' ∧ Stops m tidy done (ns.map (.node (some pr))) err) := by
  refine Ensures.mapM (fun before made s' μ' => Kept m tidy μ' ∧
    ∃ ws', Stands m tidy (done ++ before.map (.node (some pr))) (ws ++ ws') s' ∧
      ws'.map (·.place) = before.map (some pr, ·) ∧ ws'.map (·.made) = made) ?_ ?_
  · exact ⟨hμ, [], by simpa using hs, rfl, rfl⟩
  · rintro before n after made s' μ' rfl ⟨hk, ws', hs', hnodes, rfl⟩
    refine (assembleNode_ensures hs' hk (some pr) n).mono ?_ ?_
    · intro y s'' μ'' hpost
      obtain ⟨hk', c, hs''⟩ := hpost
      refine ⟨hk', ws' ++ [⟨⟨some pr, n, c⟩, y⟩], by simpa using hs'', ?_, by simp⟩
      rw [List.map_append, List.map_append, hnodes]
      rfl
    · intro err μ'' herr
      obtain ⟨hk', hf⟩ := herr
      exact ⟨hk', before.map (.node (some pr)), .node (some pr) n, after.map (.node (some pr)), _, _,
        by simp, hs', hf⟩

theorem takeRule_outcome (m : Materials) (r : Gherkin.Rule) (s : Assembly) (μ : Matchers) :
    Matching.outcome ((takeRule m r).run s) μ =
      match s.rules.take (Text.canonical r.name) with
      | (some scope, rules) => (.ok (some scope, { s with rules }), μ)
      | (none, _) =>
        (if r.nodes.isEmpty then .ok (none, s)
          else .error (.pairing (.missingRule r.name m.document.name)), μ) := by
  unfold takeRule
  rcases h : s.rules.take (Text.canonical r.name) with ⟨_ | scope, q⟩
  · cases r.nodes.isEmpty <;> simp [Matching.outcome, h] <;> rfl
  · simp [Matching.outcome, h]
    rfl

theorem Stands.rule (hs : Stands m tidy done ws s) {r : Gherkin.Rule} {rules : Queues String Scope}
    (hmet : ¬ (Demand.rule r).Unmet m done)
    (hrules : ∀ name, rules.waiting name =
      if name = Text.canonical r.name then (s.rules.waiting (Text.canonical r.name)).tail
      else s.rules.waiting name) :
    Stands m tidy (done ++ [.rule r]) ws { s with rules } where
  nodes := by simp [hs.nodes, Demand.node?]
  keys := hs.keys
  waiting := hs.waiting
  rules name := by
    rw [hrules name, hs.rules, hs.rules]
    by_cases h : name = Text.canonical r.name
    · simp [h, Demand.key]
    · have hn : DemandKey.rule (Text.canonical r.name) ≠ .rule name := fun he =>
        h (DemandKey.rule.inj he).symm
      simp [h, Demand.key, hn]
  lanes := hs.lanes
  planned := hs.planned
  executions := hs.executions
  indexed := ⟨hs.indexed.byId, hs.indexed.byName, hs.indexed.distinct⟩
  met := met_concat hs.met hmet

/-- A rule is met by the next scope of its name, and needs none if nothing stands in it. -/
theorem takeRule_ensures (hs : Stands m tidy done ws s) (r : Gherkin.Rule) :
    Ensures (takeRule m r) s μ
      (fun found s' μ' => μ' = μ ∧ found = m.scopeAfter done r ∧ (found = none → r.nodes = []) ∧
        Stands m tidy (done ++ [.rule r]) ws s')
      (fun err μ' => μ' = μ ∧ Fault m tidy done ws (.rule r) err) := by
  have hscope : (s.rules.waiting (Text.canonical r.name)).head? = m.scopeAfter done r := by
    rw [hs.rules, List.head?_drop]
    rfl
  have hunmet : (Demand.rule r).Unmet m done ↔ m.scopeAfter done r = none ∧ r.nodes ≠ [] := by
    simp only [Demand.Unmet, Materials.supply, Demand.key, Demand.Needed, Materials.scopeAfter,
      List.getElem?_eq_none_iff]
  unfold Ensures
  rw [takeRule_outcome]
  -- Either no scope waits, which only a rule without nodes tolerates, or the oldest one is taken.
  rcases s.rules.take_cases (Text.canonical r.name) with
    ⟨hempty, htake⟩ | ⟨scope, rest, q, hrest, htake, hq, -⟩
  · rw [hempty, List.head?_nil] at hscope
    rw [htake]
    cases hn : r.nodes.isEmpty with
    | false =>
      refine ⟨rfl, .unmet (hunmet.2 ⟨hscope.symm, ?_⟩)⟩
      simpa [List.isEmpty_eq_false_iff] using hn
    | true =>
      have hnil : r.nodes = [] := by simpa using hn
      refine ⟨rfl, hscope, fun _ => hnil, hs.rule (fun h => (hunmet.1 h).2 hnil) ?_⟩
      intro name
      split
      · next h => rw [h, hempty, List.tail_nil]
      · rfl
  · rw [hrest, List.head?_cons] at hscope
    rw [htake]
    refine ⟨rfl, hscope, fun h => absurd h (Option.some_ne_none scope), hs.rule (fun h => ?_) ?_⟩
    · rw [hunmet, ← hscope] at h
      exact absurd h.1 (Option.some_ne_none scope)
    · rwa [hrest, List.tail_cons]

/-- How an element of the plan comes of one of the document, behind earlier demands and with the given
placements. -/
inductive Mirrors (m : Materials) (done : List Demand) :
    List Placement → Gherkin.Element → Element → Prop
  | node (n : Gherkin.Node) (c : Candidate) (made : Node) :
      Mirrors m done [⟨⟨none, n, c⟩, made⟩] (.node n) (.node made)
  | rule (r : Gherkin.Rule) (scope : Scope) (ws : List Placement) (h : m.scopeAfter done r = some scope)
      (hnodes : ws.map (·.place) = r.nodes.map (some ⟨r, scope⟩, ·)) :
      Mirrors m done ws (.rule r)
        (.rule ⟨r.keyword, r.name, r.tags, some scope, ws.map (·.made)⟩)
  | bareRule (r : Gherkin.Rule) (h : m.scopeAfter done r = none) (hnodes : r.nodes = []) :
      Mirrors m done [] (.rule r) (.rule ⟨r.keyword, r.name, r.tags, none, []⟩)

theorem assembleElement_ensures (hs : Stands m tidy done ws s) (hμ : Kept m tidy μ)
    (e : Gherkin.Element) :
    Ensures (assembleElement m e) s μ
      (fun made s' μ' => Kept m tidy μ' ∧
        ∃ ws', Stands m tidy (done ++ m.elementDemands done e) (ws ++ ws') s' ∧
          Mirrors m done ws' e made)
      (fun err μ' => Kept m tidy μ' ∧ Stops m tidy done (m.elementDemands done e) err) := by
  cases e with
  | node n =>
    refine Ensures.map ((assembleNode_ensures hs hμ none n).mono ?_ ?_)
    · intro made s' μ' hpost
      obtain ⟨hk, c, hs'⟩ := hpost
      exact ⟨hk, _, hs', .node n c made⟩
    · intro err μ' herr
      obtain ⟨hk, hf⟩ := herr
      exact ⟨hk, [], .node none n, [], ws, s, rfl, by simpa using hs, by simpa using hf⟩
  | rule r =>
    refine Ensures.map ?_
    unfold assembleRule
    refine Ensures.bind ((takeRule_ensures hs r).mono ?_ ?_)
    · intro found s₁ μ₁ hpost
      obtain ⟨rfl, hfound, hnone, hs₁⟩ := hpost
      cases found with
      | none =>
        -- A rule without a scope has no nodes, so nothing more is demanded.
        refine Ensures.bind (Ensures.pure (Ensures.pure ?_))
        refine ⟨hμ, [], ?_, .bareRule r hfound.symm (hnone rfl)⟩
        simpa [Materials.elementDemands, ← hfound] using hs₁
      | some scope =>
        refine Ensures.bind ((assembleNodes_ensures hs₁ hμ ⟨r, scope⟩ r.nodes).mono ?_ ?_)
        · intro made s₂ μ₂ hpost
          obtain ⟨hk, ws', hs₂, hnodes, rfl⟩ := hpost
          refine Ensures.pure ⟨hk, ws', ?_, .rule r scope ws' hfound.symm hnodes⟩
          simpa [Materials.elementDemands, ← hfound] using hs₂
        · intro err μ₂ herr
          obtain ⟨hk, hf⟩ := herr
          refine ⟨hk, ?_⟩
          rw [Materials.elementDemands, ← hfound]
          exact Stops.behind hf
    · intro err μ₁ herr
      obtain ⟨rfl, hf⟩ := herr
      exact ⟨hμ, [], .rule r, _, ws, s, rfl, by simpa using hs, by simpa using hf⟩

inductive MirrorsAll (m : Materials) : List Placement → List Gherkin.Element → List Element → Prop
  | nil : MirrorsAll m [] [] []
  | concat {ws ws' : List Placement} {es : List Gherkin.Element} {e : Gherkin.Element}
      {els : List Element} {made : Element} (h : MirrorsAll m ws es els)
      (he : Mirrors m (m.demandsAfter [] es) ws' e made) :
      MirrorsAll m (ws ++ ws') (es ++ [e]) (els ++ [made])

theorem assembleElements_ensures (m : Materials) {tidy : Prop} {μ : Matchers} (hμ : Kept m tidy μ) :
    Ensures (m.document.elements.mapM (assembleElement m)) (.start m.candidates) μ
      (fun els s' μ' => Kept m tidy μ' ∧
        ∃ ws, Stands m tidy m.demands ws s' ∧ MirrorsAll m ws m.document.elements els)
      (fun err μ' => Kept m tidy μ' ∧ Stops m tidy [] m.demands err) := by
  refine Ensures.mapM (fun before els s' μ' => Kept m tidy μ' ∧
    ∃ ws, Stands m tidy (m.demandsAfter [] before) ws s' ∧ MirrorsAll m ws before els) ?_ ?_
  · exact ⟨hμ, [], stands_start m tidy, .nil⟩
  · intro before e after els s' μ' hes hpost
    obtain ⟨hk, ws, hs, hm⟩ := hpost
    refine (assembleElement_ensures hs hk e).mono ?_ ?_
    · intro made s'' μ'' hpost
      obtain ⟨hk', ws', hs', hm'⟩ := hpost
      refine ⟨hk', ws ++ ws', ?_, hm.concat hm'⟩
      rw [m.demandsAfter_append]
      simpa [Materials.demandsAfter] using hs'
    · intro err μ'' herr
      obtain ⟨hk', hf⟩ := herr
      refine ⟨hk', ?_⟩
      rw [Materials.demands, hes, m.demandsAfter_append]
      exact Stops.behind (Stops.before hf)

end Nodes

inductive Ends (m : Materials) (tidy : Prop) : Except PlanError TestPlan → Prop
  | plan {ws : List Placement} {s : Assembly} {els : List Element} (hs : Stands m tidy m.demands ws s)
      (hm : MirrorsAll m ws m.document.elements els) (hempty : s.candidates.leftovers = []) :
      Ends m tidy (.ok {
        feature := ⟨m.document.keyword, m.document.name, m.document.tags, m.feature, els⟩
        executions := s.executions
        byId := s.byId
        byName := s.byName })
  | stopped {err : PlanError} (h : Stops m tidy [] m.demands err) : Ends m tidy (.error err)
  | unmatched {ws : List Placement} {s : Assembly} (hs : Stands m tidy m.demands ws s)
      (hleft : s.candidates.leftovers ≠ []) :
      Ends m tidy (.error (.pairing (.unmatched (s.candidates.leftovers.map (·.scope.describe)))))

theorem assemble_ends (m : Materials) {tidy : Prop} {μ : Matchers} (hμ : Kept m tidy μ) :
    Ends m tidy ((assemble m).outcome μ).1 ∧ Kept m tidy ((assemble m).outcome μ).2 := by
  have hwalk := assembleElements_ensures m hμ
  unfold assemble
  unfold Ensures at hwalk
  rw [Matching.outcome_bind]
  split at hwalk
  · next els s' μ' heq =>
    obtain ⟨hk, ws, hs, hm⟩ := hwalk
    rw [heq]
    cases hleft : s'.candidates.leftovers with
    | nil =>
      simp only [hleft, List.isEmpty_nil, Bool.not_true, Bool.false_eq_true, if_false]
      exact ⟨.plan hs hm hleft, hk⟩
    | cons c cs =>
      have h := Ends.unmatched hs (by simp [hleft])
      rw [hleft] at h
      simp only [hleft, List.isEmpty_cons, Bool.not_false, if_true]
      exact ⟨h, hk⟩
  · next err μ' heq =>
    rw [heq]
    exact ⟨.stopped hwalk.2, hwalk.1⟩

end Plan
end FeaturePlan
