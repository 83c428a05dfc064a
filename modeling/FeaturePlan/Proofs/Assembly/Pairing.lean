import FeaturePlan.Proofs.Assembly.Verdict
import FeaturePlan.Proofs.Assembly.Views

/-!
The pairing that the tree of a plan records. Its nodes stand for those of the document, and every
candidate of the feature is paired with exactly one of them, in order under every key; its rules are
paired with all rule scopes that the candidates mention.
-/
namespace FeaturePlan
namespace Plan

def Node.scope : Node → Scope
  | .scenario e => e.scope
  | .outline o => o.scope

def Element.places : Element → List (Option RuleNode × Node)
  | .node n => [(none, n)]
  | .rule r => r.nodes.map (some r, ·)

def Element.rule? : Element → Option RuleNode
  | .node _ => none
  | .rule r => some r

def FeatureNode.places (f : FeatureNode) : List (Option RuleNode × Node) :=
  f.elements.flatMap Element.places

def FeatureNode.rules (f : FeatureNode) : List RuleNode := f.elements.filterMap Element.rule?

/-- A node of the plan has the origin and the texts of one of the document. -/
def Records : Gherkin.Node → Node → Prop
  | .scenario s, .scenario e => e.origin = .scenario s
  | .outline o, .outline o' => o'.keyword = o.keyword ∧ o'.name = o.name ∧ o'.tags = o.tags ∧
      ∀ e ∈ o'.examples, ∃ row ∈ o.examples, e.origin = .example row
  | _, _ => False

inductive Alike : Gherkin.Element → Element → Prop
  | node {n : Gherkin.Node} {made : Node} (h : Records n made) : Alike (.node n) (.node made)
  | rule {r : Gherkin.Rule} {scope : Option Scope} {nodes : List Node}
      (h : List.Forall₂ Records r.nodes nodes) :
      Alike (.rule r) (.rule ⟨r.keyword, r.name, r.tags, scope, nodes⟩)

/-- A node of the document, the node of the plan that came of it, each with the rule around it, and a
candidate. -/
structure Pair where
  written : Option Gherkin.Rule × Gherkin.Node
  made : Option RuleNode × Node
  candidate : Candidate

namespace Pair

/-- The key of the node: the rule counts by the scope that it is paired with. -/
def key (p : Pair) : PairKey :=
  .of p.written.2.kind p.written.2.name ((p.made.1.bind RuleNode.scope).map Scope.id)

structure Sound (p : Pair) : Prop where
  scope : p.made.2.scope = p.candidate.scope
  executions : ∀ e ∈ p.made.2.executions, e.candidate = p.candidate
  kind : p.candidate.scope.kind = p.written.2.kind
  name : Text.canonical p.candidate.scope.name = Text.canonical p.written.2.name
  rule : p.candidate.rule = p.made.1.bind RuleNode.scope
  inside : p.candidate.rule.isSome = p.written.1.isSome

end Pair

/-- The feature of a plan pairs the nodes and rules of a document with candidates and their rules. -/
structure Reconciled (d : Gherkin.Document) (cs : List Candidate) (f : FeatureNode) (pairs : List Pair) :
    Prop where
  alike : List.Forall₂ Alike d.elements f.elements
  written : pairs.map Pair.written = d.places
  made : pairs.map Pair.made = f.places
  sound : ∀ p ∈ pairs, p.Sound
  candidates : (pairs.map Pair.candidate).Perm cs
  order : pairs.Pairwise fun p q => p.key = q.key → cs.idxOf p.candidate < cs.idxOf q.candidate
  ruleName : ∀ r ∈ f.rules, ∀ s, r.scope = some s → Text.canonical s.name = Text.canonical r.name
  ruleOnce : ∀ c ∈ cs, ∀ s, c.rule = some s → f.rules.countP (·.scope = some s) = 1
  ruleOrder : ∀ name, (f.rules.filter (Text.canonical ·.name = name)).filterMap RuleNode.scope =
    (cs.filterMap Candidate.rule).eraseDups.filter (Text.canonical ·.name = name)

def Coherent (cs : List Candidate) : Prop :=
  ∀ c ∈ cs, ∀ c' ∈ cs, ∀ r r', c.rule = some r → c'.rule = some r' → r.id = r'.id → r = r'

theorem distinctRules_eq_eraseDups {cs : List Candidate} (h : Coherent cs) (seen : List ScopeId) :
    distinctRules seen cs = ((cs.filterMap Candidate.rule).filter (·.id ∉ seen)).eraseDups := by
  induction cs generalizing seen with
  | nil => rfl
  | cons c cs ih =>
    have ih := ih fun c hc c' hc' => h c (List.mem_cons_of_mem _ hc) c' (List.mem_cons_of_mem _ hc')
    cases hr : c.rule with
    | none => rw [distinctRules, hr, List.filterMap_cons_none hr, ih]
    | some r =>
      rw [List.filterMap_cons_some hr]
      by_cases hseen : r.id ∈ seen
      · simp [distinctRules, hr, hseen, ih]
      · rw [List.filter_cons_of_pos (by simpa using hseen), List.eraseDups_cons, List.filter_filter]
        simp only [distinctRules, hr, hseen, if_false, ih]
        congr 2
        refine List.filter_congr fun r' hr' => ?_
        obtain ⟨c', hc', hcr'⟩ := List.mem_filterMap.1 hr'
        have hid : r'.id = r.id ↔ r' = r := by
          refine ⟨fun he => ?_, fun he => he ▸ rfl⟩
          exact h c' (List.mem_cons_of_mem _ hc') c List.mem_cons_self r' r hcr' hr he
        by_cases he : r' = r
        · simp [he]
        · have hne : r'.id ≠ r.id := mt hid.1 he
          simp [he, hne]

theorem mem_rules_of_mem_places {f : FeatureNode} {r : RuleNode} {n : Node} (h : (some r, n) ∈ f.places) :
    r ∈ f.rules := by
  obtain ⟨e, he, hn⟩ := List.mem_flatMap.1 h
  refine List.mem_filterMap.2 ⟨e, he, ?_⟩
  cases e with
  | node n' => simp [Element.places] at hn
  | rule r' =>
    obtain ⟨n', -, heq⟩ := List.mem_map.1 hn
    cases heq
    rfl

section Placements

variable {m : Materials} {tidy : Prop} {rule : Option PairedRule} {c : Candidate} {n : Gherkin.Node}
  {made : Node}

theorem Planned.scope (h : Planned m tidy rule c n made) : made.scope = c.scope := by
  cases h with
  | scenario h =>
    obtain ⟨steps, rfl, -⟩ := h
    rfl
  | outline h => rfl

theorem Planned.candidate (h : Planned m tidy rule c n made) : ∀ e ∈ made.executions, e.candidate = c := by
  intro e he
  obtain ⟨d, hd, steps, rfl, -⟩ := exists_of_mem_right h.settled he
  exact candidate_of_mem_drafts hd

theorem Planned.records (h : Planned m tidy rule c n made) : Records n made := by
  cases h with
  | scenario h =>
    obtain ⟨steps, rfl, -⟩ := h
    rfl
  | @outline o es h =>
    refine ⟨rfl, rfl, rfl, fun e he => ?_⟩
    obtain ⟨d, hd, steps, rfl, -⟩ := exists_of_mem_right h he
    obtain ⟨g, hg, hrow⟩ := List.mem_flatMap.1 hd
    obtain ⟨⟨row, cells⟩, hmem, rfl⟩ := List.mem_map.1 hrow
    have hgrouped : row ∈ groupedExamples o :=
      List.mem_flatMap.2 ⟨g, hg, List.mem_map.2 ⟨(row, cells), hmem, rfl⟩⟩
    exact ⟨row, (mem_groupedExamples.1 hgrouped).1, rfl⟩

theorem Mirrors.alike {done : List Demand} {ws : List Placement} {e : Gherkin.Element} {made : Element}
    (h : Mirrors m done ws e made)
    (hp : ∀ w ∈ ws, Planned m tidy w.rule w.candidate w.node w.made) : Alike e made := by
  cases h with
  | node n c made => exact .node (hp _ (List.mem_singleton_self _)).records
  | rule r scope ws h hnodes =>
    refine .rule ?_
    have hmap : r.nodes = ws.map (·.node) := by
      have hsnd := congrArg (List.map Prod.snd) hnodes
      simpa [Function.comp_def, Position.place] using hsnd.symm
    rw [hmap, List.forall₂_map_left_iff, List.forall₂_map_right_iff, List.forall₂_same]
    exact fun w hw => (hp w hw).records
  | bareRule r h hnodes =>
    refine .rule ?_
    rw [hnodes]
    exact .nil

theorem MirrorsAll.alike {ws : List Placement} {es : List Gherkin.Element} {els : List Element}
    (h : MirrorsAll m ws es els) (hp : ∀ w ∈ ws, Planned m tidy w.rule w.candidate w.node w.made) :
    List.Forall₂ Alike es els := by
  induction h with
  | nil => exact .nil
  | concat h he ih =>
    refine List.rel_append (ih fun w hw => hp w (List.mem_append_left _ hw)) ?_
    exact .cons (he.alike fun w hw => hp w (List.mem_append_right _ hw)) .nil

structure Placement.Makes (w : Placement) (p : Pair) : Prop where
  candidate : p.candidate = w.candidate
  written : p.written = (w.rule.map (·.rule), w.node)
  node : p.made.2 = w.made
  rule : p.made.1.bind RuleNode.scope = w.rule.map (·.scope)

theorem Mirrors.pairs {done : List Demand} {ws : List Placement} {e : Gherkin.Element} {made : Element}
    (h : Mirrors m done ws e made) :
    ∃ pairs, List.Forall₂ Placement.Makes ws pairs ∧ pairs.map Pair.made = made.places := by
  cases h with
  | node n c made =>
    exact ⟨[⟨(none, n), (none, made), c⟩], .cons ⟨rfl, rfl, rfl, rfl⟩ .nil, rfl⟩
  | rule r scope ws h hnodes =>
    refine ⟨ws.map fun w => ⟨(w.rule.map (·.rule), w.node),
      (some ⟨r.keyword, r.name, r.tags, some scope, ws.map (·.made)⟩, w.made), w.candidate⟩, ?_, ?_⟩
    · rw [List.forall₂_map_right_iff, List.forall₂_same]
      intro w hw
      have hmem := List.mem_map_of_mem (f := fun w : Placement => w.place) hw
      rw [hnodes] at hmem
      obtain ⟨n, -, heq⟩ := List.mem_map.1 hmem
      have hrule : w.rule = some ⟨r, scope⟩ := (congrArg Prod.fst heq).symm
      exact ⟨rfl, rfl, rfl, by rw [hrule]; rfl⟩
    · simp [Element.places]
  | bareRule r h hnodes => exact ⟨[], .nil, rfl⟩

theorem MirrorsAll.pairs {ws : List Placement} {es : List Gherkin.Element} {els : List Element}
    (h : MirrorsAll m ws es els) :
    ∃ pairs, List.Forall₂ Placement.Makes ws pairs ∧ pairs.map Pair.made = els.flatMap Element.places := by
  induction h with
  | nil => exact ⟨[], .nil, rfl⟩
  | concat h he ih =>
    obtain ⟨pairs, hw, hmade⟩ := ih
    obtain ⟨pairs', hw', hmade'⟩ := he.pairs
    refine ⟨pairs ++ pairs', List.rel_append hw hw', ?_⟩
    simp [hmade, hmade']

theorem MirrorsAll.ruleScopes {ws : List Placement} {es : List Gherkin.Element} {els : List Element}
    (h : MirrorsAll m ws es els) (name : String) :
    ((els.filterMap Element.rule?).filter (Text.canonical ·.name = name)).filterMap RuleNode.scope =
      (m.rulesNamed name).take (((m.demandsAfter [] es).map Demand.key).count (.rule name)) := by
  induction h with
  | nil => rfl
  | @concat ws ws' es e els made h he ih =>
    have hdone : ((m.demandsAfter [] (es ++ [e])).map Demand.key).count (.rule name) =
        ((m.demandsAfter [] es).map Demand.key).count (.rule name) +
          (e.rule?.toList.filter (Text.canonical ·.name = name)).length := by
      simp only [Demand.count_rule, m.rules_demandsAfter, List.filterMap_append,
        filterMap_singleton, List.filter_append, List.length_append]
    have hmade : (made.rule?.toList.filter (Text.canonical ·.name = name)).filterMap RuleNode.scope =
        (e.rule?.toList.filter (Text.canonical ·.name = name)).filterMap fun r =>
          m.scopeAfter (m.demandsAfter [] es) r := by
      cases he with
      | node n c made => rfl
      | rule r scope ws h hnodes =>
        by_cases hr : Text.canonical r.name = name <;>
          simp [Element.rule?, Gherkin.Element.rule?, hr, h]
      | bareRule r h hnodes =>
        by_cases hr : Text.canonical r.name = name <;>
          simp [Element.rule?, Gherkin.Element.rule?, hr, h]
    -- One more rule of the name has the scope behind those that the rules before it have.
    rw [List.filterMap_append, List.filter_append, List.filterMap_append, ih, hdone,
      filterMap_singleton Element.rule?, hmade]
    cases hr : e.rule? with
    | none => simp
    | some r =>
      by_cases hname : Text.canonical r.name = name
      · subst hname
        simp [Materials.scopeAfter, List.take_add_one, filterMap_singleton]
      · simp [hname]

end Placements

theorem Stands.candidates_filter_eq {m : Materials} {tidy : Prop} {done : List Demand} {ws : List Placement}
    {s : Assembly} (hs : Stands m tidy done ws s) (hempty : s.candidates.leftovers = []) (key : PairKey) :
    (ws.map (·.candidate)).filter (PairKey.ofCandidate · = key) = m.candidatesUnder key := by
  have hnil : s.candidates.waiting key = [] :=
    List.subset_nil.1 (hempty ▸ s.candidates.waiting_subset_leftovers key)
  rw [← hs.waiting key, hnil, List.append_nil]

namespace Assembled

variable {m : Materials} {ws : List Placement} {s : Assembly} {plan : TestPlan}

/-- Under every key the candidates are given out in order, and none is left. -/
theorem candidates_filter_eq (h : Assembled m ws s plan) (key : PairKey) :
    (ws.map (·.candidate)).filter (PairKey.ofCandidate · = key) =
      m.candidates.filter (PairKey.ofCandidate · = key) :=
  h.stands.candidates_filter_eq h.leftovers key

theorem candidates_perm (h : Assembled m ws s plan) : (ws.map (·.candidate)).Perm m.candidates :=
  perm_of_filter_eq h.candidates_filter_eq

theorem mem_rulesNamed (h : Assembled m ws s plan) {r : RuleNode} (hr : r ∈ plan.feature.rules)
    {scope : Scope} (hs : r.scope = some scope) : scope ∈ m.rulesNamed (Text.canonical r.name) := by
  have hmem : scope ∈ (plan.feature.rules.filter
      (Text.canonical ·.name = Text.canonical r.name)).filterMap RuleNode.scope :=
    List.mem_filterMap.2 ⟨r, List.mem_filter.2 ⟨hr, by simp⟩, hs⟩
  rw [FeatureNode.rules, h.mirrors.ruleScopes] at hmem
  exact List.mem_of_mem_take hmem

theorem ruleName (h : Assembled m ws s plan) {r : RuleNode} (hr : r ∈ plan.feature.rules)
    {scope : Scope} (hs : r.scope = some scope) : Text.canonical scope.name = Text.canonical r.name := by
  simpa using (List.mem_filter.1 (h.mem_rulesNamed hr hs)).2

variable (hc : Coherent m.candidates)
include hc

theorem distinctRules_candidates :
    distinctRules [] m.candidates = (m.candidates.filterMap Candidate.rule).eraseDups := by
  simpa using distinctRules_eq_eraseDups hc []

theorem nodup_rulesNamed (name : String) : (m.rulesNamed name).Nodup := by
  rw [Materials.rulesNamed, distinctRules_candidates hc]
  exact (nodup_eraseDups _).filter _

theorem mem_rulesNamed_iff {name : String} {scope : Scope} :
    scope ∈ m.rulesNamed name ↔
      (∃ c ∈ m.candidates, c.rule = some scope) ∧ Text.canonical scope.name = name := by
  rw [Materials.rulesNamed, distinctRules_candidates hc, List.mem_filter, List.mem_eraseDups,
    List.mem_filterMap, decide_eq_true_eq]

variable {pairs : List Pair}

omit hc in
theorem mem_candidates (h : Assembled m ws s plan) {w : Placement} (hw : w ∈ ws) :
    w.candidate ∈ m.candidates :=
  h.candidates_perm.subset (List.mem_map_of_mem hw)

omit hc in
theorem mem_rules_of_makes (hmade : pairs.map Pair.made = plan.feature.places) {p : Pair} (hp : p ∈ pairs)
    {scope : Scope} (hscope : p.made.1.bind RuleNode.scope = some scope) :
    ∃ r ∈ plan.feature.rules, r.scope = some scope := by
  obtain ⟨r, hr, hrs⟩ := Option.bind_eq_some_iff.1 hscope
  have hplace : (some r, p.made.2) ∈ plan.feature.places := by
    rw [← hmade, ← hr]
    exact List.mem_map_of_mem hp
  exact ⟨r, mem_rules_of_mem_places hplace, hrs⟩

/-- A candidate is paired inside its own rule: the scope around the node comes of a candidate too, so one
identifier makes one scope. -/
theorem rule_of_makes (h : Assembled m ws s plan) (hmade : pairs.map Pair.made = plan.feature.places)
    {w : Placement} (hw : w ∈ ws) {p : Pair} (hp : p ∈ pairs) (hwp : w.Makes p)
    (hids : w.candidate.rule.map Scope.id = w.rule.map (·.scope.id)) :
    p.candidate.rule = p.made.1.bind RuleNode.scope := by
  rw [hwp.rule, hwp.candidate]
  cases hr : w.rule with
  | none => simpa [hr] using hids
  | some pr =>
    obtain ⟨r, hrules, hrs⟩ := mem_rules_of_makes hmade hp (hwp.rule.trans (congrArg _ hr))
    obtain ⟨⟨c', hc', hcr'⟩, -⟩ := (mem_rulesNamed_iff hc).1 (h.mem_rulesNamed hrules hrs)
    cases hcr : w.candidate.rule with
    | none => simp [hcr, hr] at hids
    | some scope =>
      have hid : scope.id = pr.scope.id := by simpa [hcr, hr] using hids
      rw [hc _ (h.mem_candidates hw) c' hc' scope pr.scope hcr hcr' hid]
      rfl

theorem sound_of_makes (h : Assembled m ws s plan) (hmade : pairs.map Pair.made = plan.feature.places)
    {w : Placement} (hw : w ∈ ws) {p : Pair} (hp : p ∈ pairs) (hwp : w.Makes p) :
    p.Sound ∧ p.key = PairKey.ofCandidate p.candidate := by
  have hkey := h.stands.keys w hw
  have hplanned := h.stands.planned w hw
  obtain ⟨hkind, hname, hids⟩ : w.candidate.scope.kind = w.node.kind ∧
      Text.canonical w.candidate.scope.name = Text.canonical w.node.name ∧
      w.candidate.rule.map Scope.id = w.rule.map (·.scope.id) := by
    simpa [PairKey.ofCandidate, Position.key, placeKey, Position.place, PairKey.of] using hkey
  have hrule := rule_of_makes hc h hmade hw hp hwp hids
  refine ⟨⟨?_, ?_, ?_, ?_, hrule, ?_⟩, ?_⟩
  · rw [hwp.node, hwp.candidate, hplanned.scope]
  · rw [hwp.node, hwp.candidate]
    exact hplanned.candidate
  · rw [hwp.candidate, hwp.written, hkind]
  · rw [hwp.candidate, hwp.written, hname]
  · rw [hrule, hwp.rule, hwp.written, Option.isSome_map, Option.isSome_map]
  · rw [Pair.key, hwp.rule, hwp.written, hwp.candidate, hkey, Option.map_map]
    rfl

theorem ruleScopes_eq (h : Assembled m ws s plan) (hw : List.Forall₂ Placement.Makes ws pairs)
    (hmade : pairs.map Pair.made = plan.feature.places) (name : String) :
    (plan.feature.rules.filter (Text.canonical ·.name = name)).filterMap RuleNode.scope =
      m.rulesNamed name := by
  rw [FeatureNode.rules, h.mirrors.ruleScopes]
  refine take_eq_self_of_subset (nodup_rulesNamed hc name) fun scope hscope => ?_
  obtain ⟨⟨c, hcm, hcr⟩, hname⟩ := (mem_rulesNamed_iff hc).1 hscope
  obtain ⟨w, hwm, rfl⟩ := List.mem_map.1 (h.candidates_perm.symm.subset hcm)
  obtain ⟨p, hp, hwp⟩ := exists_of_mem_left hw hwm
  have hrule := (sound_of_makes hc h hmade hwm hp hwp).1.rule
  rw [hwp.candidate, hcr] at hrule
  obtain ⟨r, hrules, hrs⟩ := mem_rules_of_makes hmade hp hrule.symm
  rw [← h.mirrors.ruleScopes]
  refine List.mem_filterMap.2 ⟨r, List.mem_filter.2 ⟨hrules, ?_⟩, hrs⟩
  simp [← h.ruleName hrules hrs, hname]

theorem countP_ruleScope (h : Assembled m ws s plan) (hw : List.Forall₂ Placement.Makes ws pairs)
    (hmade : pairs.map Pair.made = plan.feature.places) {c : Candidate} (hcm : c ∈ m.candidates)
    {scope : Scope} (hcr : c.rule = some scope) :
    plan.feature.rules.countP (·.scope = some scope) = 1 := by
  have hmem : scope ∈ m.rulesNamed (Text.canonical scope.name) :=
    (mem_rulesNamed_iff hc).2 ⟨⟨c, hcm, hcr⟩, rfl⟩
  have hnamed : plan.feature.rules.countP (·.scope = some scope) =
      (plan.feature.rules.filter (Text.canonical ·.name = Text.canonical scope.name)).countP
        (·.scope = some scope) := by
    rw [List.countP_filter]
    refine List.countP_congr fun r hr => ?_
    simp only [decide_eq_true_eq, Bool.and_eq_true]
    exact ⟨fun hs => ⟨hs, (h.ruleName hr hs).symm⟩, fun hs => hs.1⟩
  have hcount : (plan.feature.rules.filter
      (Text.canonical ·.name = Text.canonical scope.name)).countP (·.scope = some scope) =
        ((plan.feature.rules.filter
          (Text.canonical ·.name = Text.canonical scope.name)).filterMap RuleNode.scope).count scope := by
    rw [List.count_filterMap]
    exact List.countP_congr fun r _ => by simp
  rw [hnamed, hcount, ruleScopes_eq hc h hw hmade]
  exact List.count_eq_one_of_mem (nodup_rulesNamed hc _) hmem

end Assembled

/-- If there is a plan, its tree pairs the nodes of the document with the candidates of the feature, each
with one, and its rules with all rule scopes among them. -/
theorem assemble_reconciled {document : Gherkin.Document} {feature : Scope} {candidates : List Candidate}
    {parameters : Parameters} {limit : Nat} {μ : Matchers} {plan : TestPlan}
    (hids : (candidates.map Candidate.id).Nodup) (hrules : Coherent candidates)
    (h : ((assemble (.ofFeature document feature candidates parameters limit)).outcome μ).1 = .ok plan) :
    plan.feature.scope = feature ∧ ∃ pairs,
      Reconciled document (candidates.filter (·.feature.id = feature.id)) plan.feature pairs := by
  generalize hm : Materials.ofFeature document feature candidates parameters limit = m at h
  have hcs : candidates.filter (·.feature.id = feature.id) = m.candidates := by rw [← hm]; rfl
  have hc : Coherent m.candidates := by
    rw [← hcs]
    exact fun c hc c' hc' => hrules c (List.mem_of_mem_filter hc) c' (List.mem_of_mem_filter hc')
  have hnodup : m.candidates.Nodup := by
    rw [← hcs]
    exact (hids.of_map _).filter _
  obtain ⟨ws, s, ha⟩ := assembled_of_ok h
  obtain ⟨pairs, hw, hmade⟩ := ha.mirrors.pairs
  have hcandidates : pairs.map Pair.candidate = ws.map (·.candidate) :=
    (map_eq_map_of_forall₂ hw fun _ _ hwp => hwp.candidate.symm).symm
  have hsound : ∀ p ∈ pairs, p.Sound ∧ p.key = PairKey.ofCandidate p.candidate := by
    intro p hp
    obtain ⟨w, hwm, hwp⟩ := exists_of_mem_right hw hp
    exact Assembled.sound_of_makes hc ha hmade hwm hp hwp
  have hdocument : m.document = document := by rw [← hm]; rfl
  refine ⟨by rw [ha.scope, ← hm]; rfl, pairs, ?_⟩
  rw [hcs, ← hdocument]
  exact {
    alike := ha.mirrors.alike ha.stands.planned
    written := by
      rw [Gherkin.Document.places, ← ha.mirrors.places]
      exact (map_eq_map_of_forall₂ hw fun _ _ hwp => hwp.written.symm).symm
    made := hmade
    sound := fun p hp => (hsound p hp).1
    candidates := by
      rw [hcandidates]
      exact ha.candidates_perm
    order := by
      -- Pairs and candidates agree under every key, so what shares a key keeps its order.
      have horder := idxOf_lt_of_filter_eq ha.candidates_filter_eq hnodup
      rw [← hcandidates, List.pairwise_map] at horder
      refine horder.imp_of_mem fun {p q} hp hq hpq hkey => hpq ?_
      rw [← (hsound p hp).2, ← (hsound q hq).2, hkey]
    ruleName := fun r hr scope hs => ha.ruleName hr hs
    ruleOnce := fun c hcm scope hcr => Assembled.countP_ruleScope hc ha hw hmade hcm hcr
    ruleOrder := by
      intro name
      rw [Assembled.ruleScopes_eq hc ha hw hmade, Materials.rulesNamed,
        Assembled.distinctRules_candidates hc] }

section TwoRules

def shopFeature : Scope := { id := ⟨"feature-1"⟩, kind := .feature, name := "Shop", mode := .standard }

def openRule (id : String) : Scope := { id := ⟨id⟩, kind := .rule, name := " Open ", mode := .standard }

def teaIn (rule id : String) : Candidate where
  scope := { id := ⟨id⟩, kind := .scenario, name := "Tea", mode := .standard }
  feature := shopFeature
  rule := some (openRule rule)
  ancestors := [shopFeature, openRule rule]
  steps := []

def openWith (count : Nat) : Gherkin.Rule where
  keyword := "Rule"
  name := "Open"
  tags := []
  background := none
  nodes := List.replicate count (.scenario
    { keyword := "Scenario", name := "Tea", tags := [], steps := [], line := 3 })

def twoRules : Gherkin.Document where
  keyword := "Feature"
  name := "Shop"
  description := none
  tags := []
  background := none
  elements := [.rule (openWith 2), .rule (openWith 1)]
  path := none

def teas : List Candidate :=
  [teaIn "rule-1" "scenario-1", teaIn "rule-2" "scenario-2", teaIn "rule-1" "scenario-3"]

theorem twoRules_reconciled : ∃ plan,
    ((assemble (.ofFeature twoRules shopFeature teas {})).outcome {}).1 = .ok plan ∧
      ∃ pairs, Reconciled twoRules teas plan.feature pairs := by
  have hok : ((assemble (.ofFeature twoRules shopFeature teas {})).outcome {}).1.isOk = true := by
    decide +kernel
  obtain ⟨plan, hplan⟩ := exists_ok_of_isOk hok
  have hcoherent : Coherent teas := by
    intro c hc c' hc' r r' hr hr' hid
    have hrule : ∀ c ∈ teas, ∀ r, c.rule = some r → r = openRule r.id.text := by
      simp [teas, teaIn, openRule]
    rw [hrule c hc r hr, hrule c' hc' r' hr', hid]
  have hall : teas.filter (·.feature.id = shopFeature.id) = teas := by decide
  obtain ⟨-, pairs, hpairs⟩ := assemble_reconciled (by decide) hcoherent hplan
  rw [hall] at hpairs
  exact ⟨plan, hplan, pairs, hpairs⟩

end TwoRules

end Plan
end FeaturePlan
