import FeaturePlan.Proofs.Assembly.Pairing

/-!
Documents whose elements each have a counterpart among the scopes, in the same order. The rule scopes are
then those of the rules that have scenarios; so every node can have the candidate at its place only
if no rule without scenarios takes a scope before them.
-/
namespace FeaturePlan
namespace Plan

/-- An element of a document, with the scope and the candidates at its place. -/
inductive Counterpart where
  | node (node : Gherkin.Node) (candidate : Candidate)
  | rule (rule : Gherkin.Rule) (scope : Scope) (candidates : List Candidate)

namespace Counterpart

def element : Counterpart → Gherkin.Element
  | .node n _ => .node n
  | .rule r _ _ => .rule r

def candidates : Counterpart → List Candidate
  | .node _ c => [c]
  | .rule _ _ cs => cs

def rule? : Counterpart → Option PairedRule
  | .node _ _ => none
  | .rule r s _ => some ⟨r, s⟩

def positions : Counterpart → List Position
  | .node n c => [⟨none, n, c⟩]
  | .rule r s cs => r.nodes.zipWith (fun n c => ⟨some ⟨r, s⟩, n, c⟩) cs

/-- The demands of the element if its rule has the scope at its place. -/
def demands : Counterpart → List Demand
  | .node n _ => [.node none n]
  | .rule r s _ => .rule r :: r.nodes.map (.node (some ⟨r, s⟩))

/-- The kinds and names of the two agree, and the candidates are those of the scope. -/
inductive Fits : Counterpart → Prop
  | node {n : Gherkin.Node} {c : Candidate} (hrule : c.rule = none)
      (hkey : PairKey.ofCandidate c = placeKey (none, n)) : Fits (.node n c)
  | rule {r : Gherkin.Rule} {s : Scope} {cs : List Candidate}
      (hname : Text.canonical s.name = Text.canonical r.name)
      (hnodes : List.Forall₂ (fun n c => c.rule = some s ∧
        PairKey.ofCandidate c = placeKey (some ⟨r, s⟩, n)) r.nodes cs) : Fits (.rule r s cs)

end Counterpart

theorem Counterpart.Fits.positions {p : Counterpart} (h : p.Fits) :
    p.positions.map Position.place = p.demands.filterMap Demand.node? ∧
      p.positions.map (·.candidate) = p.candidates ∧
        ∀ x ∈ p.positions, PairKey.ofCandidate x.candidate = x.key := by
  cases h with
  | node hrule hkey => exact ⟨rfl, rfl, fun x hx => List.mem_singleton.1 hx ▸ hkey⟩
  | @rule r s cs hname hnodes =>
    simp only [Counterpart.positions, Counterpart.demands, Counterpart.candidates]
    generalize r.nodes = ns at hnodes
    induction hnodes with
    | nil => exact ⟨rfl, rfl, by simp⟩
    | cons hnc _ ih =>
      obtain ⟨hplaces, hcandidates, hkeys⟩ := ih
      refine ⟨?_, ?_, ?_⟩
      · simpa [Position.place, Demand.node?, List.filterMap_cons] using hplaces
      · simpa using hcandidates
      · simp only [List.zipWith_cons_cons, List.mem_cons]
        rintro x (rfl | hx)
        · exact hnc.2
        · exact hkeys x hx

theorem Counterpart.Fits.length_positions {p : Counterpart} (h : p.Fits) :
    p.positions.length = p.element.places.length := by
  cases h with
  | node => rfl
  | rule hname hnodes =>
    simp [Counterpart.positions, Counterpart.element, Gherkin.Element.places, hnodes.length_eq]

/-- A node of the plan, and all that is executed there, has the given candidate. -/
structure Paired (c : Candidate) (made : Node) : Prop where
  scope : made.scope = c.scope
  executions : ∀ e ∈ made.executions, e.candidate = c

def PlacedAt (scopeOf : PairedRule → Option Scope) : Counterpart → Element → Prop
  | .node _ c, .node made => Paired c made
  | .rule r s cs, .rule made => made.scope = scopeOf ⟨r, s⟩ ∧ List.Forall₂ Paired cs made.nodes
  | _, _ => False

def PairedRule.neededScope (pr : PairedRule) : Option Scope :=
  if pr.rule.nodes = [] then none else some pr.scope

theorem Planned.paired {m : Materials} {tidy : Prop} {rule : Option PairedRule} {c : Candidate}
    {n : Gherkin.Node} {made : Node} (h : Planned m tidy rule c n made) : Paired c made :=
  ⟨h.scope, h.candidate⟩

def pairedRules (cps : List Counterpart) : List PairedRule := cps.filterMap Counterpart.rule?

theorem forall₂_placedAt_some_iff {cps : List Counterpart} {els : List Element}
    (h : List.Forall₂ (PlacedAt PairedRule.neededScope) cps els) :
    List.Forall₂ (PlacedAt fun pr => some pr.scope) cps els ↔
      ∀ pr ∈ pairedRules cps, pr.rule.nodes ≠ [] := by
  induction h with
  | nil => simp [pairedRules]
  | @cons p made cps els hp _ ih =>
    rw [List.forall₂_cons, ih]
    cases p with
    | node n c =>
      have hhead : pairedRules (.node n c :: cps) = pairedRules cps := rfl
      rw [hhead]
      cases made with
      | node made => exact ⟨fun hall => hall.2, fun hall => ⟨hp, hall⟩⟩
      | rule made => exact hp.elim
    | rule r s cs =>
      have hhead : pairedRules (.rule r s cs :: cps) = ⟨r, s⟩ :: pairedRules cps := rfl
      rw [hhead, List.forall_mem_cons]
      cases made with
      | node made => exact hp.elim
      | rule made =>
        obtain ⟨hscope, hnodes⟩ := hp
        refine and_congr_left fun _ => ⟨?_, fun hne => ⟨?_, hnodes⟩⟩
        · rintro ⟨hsome, -⟩ hempty
          rw [hsome, PairedRule.neededScope, if_pos hempty] at hscope
          cases hscope
        · rw [hscope, PairedRule.neededScope, if_neg hne]

/-- Materials in which every element has its counterpart. -/
structure Aligned (m : Materials) (cps : List Counterpart) : Prop where
  elements : m.document.elements = cps.map Counterpart.element
  candidates : m.candidates = cps.flatMap Counterpart.candidates
  fits : ∀ p ∈ cps, p.Fits
  rules : ((pairedRules cps).map (·.scope.id)).Nodup

/-- No rule without scenarios stands before one with scenarios of the same name. -/
def NoBareFirst (rules : List Gherkin.Rule) : Prop :=
  rules.Pairwise fun r r' =>
    Text.canonical r.name = Text.canonical r'.name → r.nodes = [] → r'.nodes = []

theorem distinctRules_append_of_rule (seen : List ScopeId) {s : Scope} {cs : List Candidate}
    (hcs : ∀ c ∈ cs, c.rule = some s) (rest : List Candidate) :
    distinctRules seen (cs ++ rest) =
      if cs = [] ∨ s.id ∈ seen then distinctRules seen rest
      else s :: distinctRules (s.id :: seen) rest := by
  induction cs generalizing seen with
  | nil => simp
  | cons c cs ih =>
    have hc := hcs c List.mem_cons_self
    have ih := fun seen => ih seen fun c' hc' => hcs c' (List.mem_cons_of_mem _ hc')
    rw [List.cons_append, distinctRules, hc]
    by_cases hseen : s.id ∈ seen
    · simp [hseen, ih]
    · simp [hseen, ih]

/-- The rules with scenarios are mentioned, each at its place. -/
theorem distinctRules_counterparts {cps : List Counterpart} (hfits : ∀ p ∈ cps, p.Fits)
    (hrules : ((pairedRules cps).map (·.scope.id)).Nodup) (seen : List ScopeId)
    (hseen : ∀ pr ∈ pairedRules cps, pr.scope.id ∉ seen) :
    distinctRules seen (cps.flatMap Counterpart.candidates) =
      ((pairedRules cps).filter (·.rule.nodes ≠ [])).map (·.scope) := by
  induction cps generalizing seen with
  | nil => rfl
  | cons p cps ih =>
    have ih := ih fun q hq => hfits q (List.mem_cons_of_mem _ hq)
    cases hfits p List.mem_cons_self with
    | @node n c hrule hkey =>
      have hhead : pairedRules (.node n c :: cps) = pairedRules cps := rfl
      rw [hhead] at hrules hseen ⊢
      rw [List.flatMap_cons, Counterpart.candidates, List.singleton_append, distinctRules, hrule]
      exact ih hrules seen hseen
    | @rule r s cs hname hnodes =>
      have hhead : pairedRules (.rule r s cs :: cps) = ⟨r, s⟩ :: pairedRules cps := rfl
      rw [hhead] at hrules hseen ⊢
      rw [List.map_cons, List.nodup_cons] at hrules
      have hcs : ∀ c ∈ cs, c.rule = some s := by
        intro c hc
        obtain ⟨n, -, hnc⟩ := exists_of_mem_right hnodes hc
        exact hnc.1
      have hs : s.id ∉ seen := hseen ⟨r, s⟩ List.mem_cons_self
      rw [List.flatMap_cons, Counterpart.candidates, distinctRules_append_of_rule seen hcs]
      by_cases hempty : r.nodes = []
      · -- A rule without nodes has no candidates, so its scope is mentioned nowhere.
        have hnil : cs = [] := by simpa [hempty] using hnodes
        rw [if_pos (.inl hnil), List.filter_cons_of_neg (by simpa using hempty)]
        exact ih hrules.2 seen fun pr hpr => hseen pr (List.mem_cons_of_mem _ hpr)
      · have hne : cs ≠ [] := by
          rintro rfl
          exact hempty (by simpa using hnodes)
        rw [if_neg (by simp [hne, hs]), List.filter_cons_of_pos (by simpa using hempty), List.map_cons,
          ih hrules.2 (s.id :: seen)]
        intro pr hpr
        rw [List.mem_cons, not_or]
        refine ⟨fun he => hrules.1 (List.mem_map.2 ⟨pr, hpr, he⟩), ?_⟩
        exact hseen pr (List.mem_cons_of_mem _ hpr)

theorem filter_map_candidate {xs : List Position} (h : ∀ x ∈ xs, PairKey.ofCandidate x.candidate = x.key)
    (key : PairKey) : (xs.filter fun x => placeKey x.place = key).map (·.candidate) =
      (xs.map (·.candidate)).filter (PairKey.ofCandidate · = key) := by
  rw [List.filter_map]
  congr 1
  refine List.filter_congr fun x hx => ?_
  rw [Function.comp_apply, h x hx, Position.key]

namespace Aligned

variable {m : Materials} {cps : List Counterpart} (h : Aligned m cps)
include h

theorem document_rules : m.document.rules = (pairedRules cps).map (·.rule) := by
  rw [Gherkin.Document.rules, h.elements, pairedRules, List.filterMap_map, List.map_filterMap]
  refine List.filterMap_congr fun p _ => ?_
  cases p <;> rfl

theorem ruleName {pr : PairedRule} (hpr : pr ∈ pairedRules cps) :
    Text.canonical pr.scope.name = Text.canonical pr.rule.name := by
  obtain ⟨p, hp, he⟩ := List.mem_filterMap.1 hpr
  cases h.fits p hp with
  | node => cases he
  | rule hname =>
    cases he
    exact hname

theorem rulesNamed_eq (name : String) :
    m.rulesNamed name = (((pairedRules cps).filter (Text.canonical ·.rule.name = name)).filter
      (·.rule.nodes ≠ [])).map (·.scope) := by
  rw [Materials.rulesNamed, h.candidates, distinctRules_counterparts h.fits h.rules [] (by simp),
    List.filter_map, List.filter_filter, List.filter_filter]
  congr 1
  refine List.filter_congr fun pr hpr => ?_
  rw [Function.comp_apply, h.ruleName hpr, Bool.and_comm]

theorem rulesNamed_getElem? (hbare : NoBareFirst m.document.rules) {before after : List PairedRule}
    {pr : PairedRule} (hsplit : pairedRules cps = before ++ pr :: after) :
    (m.rulesNamed (Text.canonical pr.rule.name))[
      (before.filter (Text.canonical ·.rule.name = Text.canonical pr.rule.name)).length]? =
        if pr.rule.nodes = [] then none else some pr.scope := by
  rw [h.document_rules, hsplit, NoBareFirst, List.pairwise_map, List.pairwise_append,
    List.pairwise_cons] at hbare
  obtain ⟨-, ⟨hafter, -⟩, hbefore⟩ := hbare
  rw [h.rulesNamed_eq, hsplit, List.filter_append, List.filter_append, List.filter_cons_of_pos (by simp)]
  by_cases hempty : pr.rule.nodes = []
  · have hnone : (after.filter (Text.canonical ·.rule.name = Text.canonical pr.rule.name)).filter
        (·.rule.nodes ≠ []) = [] := by
      refine List.filter_eq_nil_iff.2 fun x hx => ?_
      obtain ⟨hx, hname⟩ := List.mem_filter.1 hx
      simpa using hafter x hx (by simpa using Eq.symm (by simpa using hname)) hempty
    rw [List.filter_cons_of_neg (by simpa using hempty), hnone, List.append_nil, if_pos hempty,
      List.getElem?_eq_none_iff, List.length_map]
    exact List.length_filter_le _ _
  · have hall : (before.filter (Text.canonical ·.rule.name = Text.canonical pr.rule.name)).filter
        (·.rule.nodes ≠ []) =
          before.filter (Text.canonical ·.rule.name = Text.canonical pr.rule.name) := by
      refine List.filter_eq_self.2 fun x hx => ?_
      obtain ⟨hx, hname⟩ := List.mem_filter.1 hx
      simpa using fun he => hempty (hbefore x hx pr List.mem_cons_self (by simpa using hname) he)
    rw [List.filter_cons_of_pos (by simpa using hempty), hall, if_neg hempty, List.map_append,
      List.map_cons]
    simp

theorem supply_rule (name : String) : m.supply (.rule name) =
    (m.document.rules.filter (Text.canonical ·.name = name)).countP (·.nodes ≠ []) := by
  rw [Materials.supply, h.rulesNamed_eq, h.document_rules, List.length_map, List.countP_eq_length_filter,
    List.filter_map, List.filter_map, List.length_map]
  rfl

/-- If all demands are met, of every name the rules with scenarios come first. -/
theorem noBareFirst_of_met (hmet : m.AllMet) : NoBareFirst m.document.rules := by
  refine pairwise_of_filter fun name => ?_
  have hfirst : (m.document.rules.filter (Text.canonical ·.name = name)).Pairwise fun r r' =>
      decide (r.nodes ≠ []) = false → decide (r'.nodes ≠ []) = false := by
    refine pairwise_of_length_lt_countP fun before r after hsplit hr => ?_
    obtain ⟨earlier, later, hdemands, hcount⟩ := m.exists_demand_of_rules hsplit
    have hname : Text.canonical r.name = name := by
      have hmem : r ∈ m.document.rules.filter (Text.canonical ·.name = name) := by simp [hsplit]
      simpa using (List.mem_filter.1 hmem).2
    by_contra hle
    refine hmet earlier (.rule r) later hdemands ⟨?_, by simpa [Demand.Needed] using hr⟩
    rw [Demand.key, hname, h.supply_rule, hcount]
    exact Nat.le_of_not_lt hle
  exact hfirst.imp fun {r r'} hrr' => by simpa using hrr'

theorem scopeAfter_eq (hbare : NoBareFirst m.document.rules) {before after : List Counterpart}
    {r : Gherkin.Rule} {s : Scope} {cs : List Candidate} (hsplit : cps = before ++ .rule r s cs :: after) :
    m.scopeAfter (m.demandsAfter [] (before.map Counterpart.element)) r =
      if r.nodes = [] then none else some s := by
  have hrules : pairedRules cps = pairedRules before ++ ⟨r, s⟩ :: pairedRules after := by
    rw [hsplit, pairedRules, List.filterMap_append]
    rfl
  have hbefore : (before.map Counterpart.element).filterMap Gherkin.Element.rule? =
      (pairedRules before).map (·.rule) := by
    rw [pairedRules, List.filterMap_map, List.map_filterMap]
    refine List.filterMap_congr fun p _ => ?_
    cases p <;> rfl
  rw [← h.rulesNamed_getElem? hbare hrules, Materials.scopeAfter, Demand.count_rule,
    m.rules_demandsAfter, hbefore, List.filter_map, List.length_map]
  rfl

theorem demandsAfter_eq (hbare : NoBareFirst m.document.rules) {before after : List Counterpart}
    (hsplit : cps = before ++ after) :
    m.demandsAfter [] (before.map Counterpart.element) = before.flatMap Counterpart.demands := by
  induction before using List.reverseRecOn generalizing after with
  | nil => rfl
  | append_singleton before p ih =>
    have hbefore := ih (by simpa using hsplit : cps = before ++ (p :: after))
    have hp : m.elementDemands (m.demandsAfter [] (before.map Counterpart.element)) p.element =
        p.demands := by
      cases p with
      | node n c => rfl
      | rule r s cs =>
        have hsplit' : cps = before ++ .rule r s cs :: after := by simpa using hsplit
        rw [Counterpart.element, Materials.elementDemands, h.scopeAfter_eq hbare hsplit']
        by_cases hempty : r.nodes = [] <;> simp [hempty, Counterpart.demands]
    rw [List.map_append, m.demandsAfter_append, List.flatMap_append]
    simp only [List.map_cons, List.map_nil, Materials.demandsAfter, List.append_nil, List.nil_append,
      List.flatMap_cons, List.flatMap_nil, hp]
    rw [hbefore]

/-- Unless a rule without scenarios is in the way, the nodes are demanded each in its own rule. -/
theorem demands_eq (hbare : NoBareFirst m.document.rules) :
    m.demands = cps.flatMap Counterpart.demands := by
  rw [Materials.demands, h.elements]
  exact h.demandsAfter_eq hbare (List.append_nil cps).symm

theorem map_place (hbare : NoBareFirst m.document.rules) :
    (cps.flatMap Counterpart.positions).map Position.place = m.demands.filterMap Demand.node? := by
  rw [h.demands_eq hbare, List.map_flatMap, List.filterMap_flatMap]
  exact List.flatMap_congr fun p hp => (h.fits p hp).positions.1

theorem map_candidate :
    (cps.flatMap Counterpart.positions).map (·.candidate) = m.candidates := by
  rw [h.candidates, List.map_flatMap]
  exact List.flatMap_congr fun p hp => (h.fits p hp).positions.2.1

theorem key_eq {x : Position} (hx : x ∈ cps.flatMap Counterpart.positions) :
    PairKey.ofCandidate x.candidate = x.key := by
  obtain ⟨p, hp, hx⟩ := List.mem_flatMap.1 hx
  exact (h.fits p hp).positions.2.2 x hx

theorem asked_eq (hbare : NoBareFirst m.document.rules) (key : PairKey) :
    m.asked key = (m.candidatesUnder key).length := by
  have hkeys : (m.demands.filterMap Demand.node?).map placeKey =
      m.candidates.map PairKey.ofCandidate := by
    rw [← h.map_place hbare, ← h.map_candidate, List.map_map, List.map_map]
    exact List.map_congr_left fun x hx => (h.key_eq hx).symm
  rw [Materials.asked, Demand.count_node, hkeys, Materials.candidatesUnder, count_map_eq_length_filter]

theorem allMet (hbare : NoBareFirst m.document.rules) : m.AllMet := by
  intro before d after hsplit hunmet
  cases d with
  | node rule n =>
    have hasked := h.asked_eq hbare (placeKey (rule, n))
    have hsupply := hunmet.1
    rw [Materials.asked, hsplit, List.map_append, List.map_cons, List.count_append, Demand.key,
      List.count_cons_self] at hasked
    rw [Demand.key, Materials.supply] at hsupply
    omega
  | rule r =>
    have hrules : m.document.rules = before.filterMap Demand.rule? ++ r :: after.filterMap Demand.rule? := by
      have hall : m.demands.filterMap Demand.rule? = m.document.rules := m.rules_demandsAfter [] _
      rw [← hall, hsplit, List.filterMap_append]
      rfl
    rw [h.document_rules, List.map_eq_append_iff] at hrules
    obtain ⟨front, back, hsplit', hfront, hback⟩ := hrules
    obtain ⟨pr, back, rfl, rfl, -⟩ := List.map_eq_cons_iff.1 hback
    have hscope := h.rulesNamed_getElem? hbare hsplit'
    rw [if_neg hunmet.2] at hscope
    have hlt := (List.getElem?_eq_some_iff.1 hscope).1
    have hsupply := hunmet.1
    rw [Demand.key, Materials.supply, Demand.count_rule, ← hfront, List.filter_map,
      List.length_map] at hsupply
    exact absurd hsupply (Nat.not_le_of_gt hlt)

theorem positions_prefix (hbare : NoBareFirst m.document.rules) {xs : List Position}
    (hplaces : xs.map Position.place <+: m.demands.filterMap Demand.node?)
    (hkeys : ∀ x ∈ xs, PairKey.ofCandidate x.candidate = x.key)
    (horder : ∀ key, (xs.map (·.candidate)).filter (PairKey.ofCandidate · = key) <+:
      m.candidatesUnder key) : xs <+: cps.flatMap Counterpart.positions := by
  refine prefix_of_filter_prefix Position.place (·.candidate) placeKey ?_ ?_ fun key => ?_
  · rintro ⟨rule, n, c⟩ ⟨rule', n', c'⟩ hplace hcandidate
    cases hplace
    cases hcandidate
    rfl
  · rwa [h.map_place hbare]
  · rw [filter_map_candidate hkeys, filter_map_candidate fun x hx => h.key_eq hx, h.map_candidate]
    exact horder key

theorem next_prefix (hbare : NoBareFirst m.document.rules) {tidy : Prop} {before after : List Demand}
    {ws : List Placement} {s : Assembly} (hs : Stands m tidy before ws s) {rule : Option PairedRule}
    {n : Gherkin.Node} {c : Candidate} (hsplit : m.demands = before ++ .node rule n :: after)
    (hc : Next m ws rule n c) :
    ws.map (·.toPosition) ++ [⟨rule, n, c⟩] <+: cps.flatMap Counterpart.positions := by
  refine h.positions_prefix hbare ?_ ?_ fun key => ?_
  · rw [hsplit, List.filterMap_append, hs.nodes, List.map_append, List.map_map]
    exact List.prefix_append_right_inj _ |>.2 (List.prefix_append [(rule, n)] _)
  · intro x hx
    rcases List.mem_append.1 hx with hx | hx
    · obtain ⟨w, hw, rfl⟩ := List.mem_map.1 hx
      exact hs.keys w hw
    · rw [List.mem_singleton.1 hx]
      exact hc.key
  · rw [List.map_append, List.map_map]
    by_cases hk : PairKey.ofCandidate c = key
    · subst hk
      exact hc.order
    · rw [List.filter_append, List.map_singleton, List.filter_cons_of_neg (by simpa using hk),
        List.filter_nil, List.append_nil, ← hs.waiting key]
      exact List.prefix_append _ _

theorem exists_plan (hbare : NoBareFirst m.document.rules)
    (hsteps : ∀ x ∈ cps.flatMap Counterpart.positions, ∀ d ∈ x.drafts m,
      ∃ steps, Resolves m x.candidate d steps)
    (hdistinct : Distinct ((cps.flatMap Counterpart.positions).flatMap fun x =>
      (x.drafts m).map Draft.identity)) {μ : Matchers} (hμ : μ.Sound m.parameters) :
    ∃ plan, ((assemble m).outcome μ).1 = .ok plan := by
  obtain ⟨hends, -⟩ := @assemble_ends m True μ fun _ => hμ
  generalize (Matching.outcome (assemble m) μ).1 = result at hends
  cases hends with
  | plan => exact ⟨_, rfl⟩
  | unmatched hs hleft =>
    rw [hs.leftovers] at hleft
    refine absurd (m.surplus_eq_nil_iff.2 fun key => ?_) hleft
    exact Nat.le_of_eq (h.asked_eq hbare key).symm
  | stopped hstop =>
    obtain ⟨before, d, after, ws, s, hsplit, hs, hfault⟩ := hstop
    cases hfault with
    | unmet hunmet => exact absurd hunmet (h.allMet hbare before d after hsplit)
    | @step rule n c hd hc hfails =>
      subst hd
      -- Whatever node comes next takes the candidate at its place, with which its drafts have definitions.
      have hnext := h.next_prefix hbare hs hsplit hc
      obtain ⟨x, hx, hnone⟩ := hfails trivial
      exact absurd (hsteps ⟨rule, n, c⟩ (hnext.subset (by simp)) x hx) hnone
    | @identity rule n c hd hc hfails =>
      subst hd
      have hnext := h.next_prefix hbare hs hsplit hc
      -- What was placed and the node are the first of all positions, whose identities are distinct.
      refine absurd (hdistinct.of_sublist ?_) hfails
      have hsub := hnext.sublist.flatMap fun x => (x.drafts m).map Draft.identity
      simpa [List.flatMap_append, List.flatMap_map, Position.drafts] using hsub

theorem placedAt_of_mirrors (hbare : NoBareFirst m.document.rules) {before after : List Counterpart}
    {p : Counterpart} (hsplit : cps = before ++ p :: after) {ws : List Placement} {made : Element}
    (hm : Mirrors m (m.demandsAfter [] (before.map Counterpart.element)) ws p.element made)
    (hws : ws.map (·.toPosition) = p.positions) {tidy : Prop}
    (hplanned : ∀ w ∈ ws, Planned m tidy w.rule w.candidate w.node w.made) :
    PlacedAt PairedRule.neededScope p made := by
  have hfits : p.Fits := h.fits p (by simp [hsplit])
  have hcandidates : ws.map (·.candidate) = p.candidates := by
    have hmap := congrArg (List.map (·.candidate)) hws
    rwa [List.map_map, hfits.positions.2.1] at hmap
  cases p with
  | node n c =>
    cases hm with
    | node n c' made =>
      obtain rfl : c' = c := by simpa [Counterpart.candidates] using hcandidates
      exact (hplanned _ (List.mem_singleton_self _)).paired
  | rule r s cs =>
    have hscope := h.scopeAfter_eq hbare hsplit
    cases hm with
    | rule r scope ws hafter hnodes =>
      rw [hafter] at hscope
      refine ⟨by rw [PairedRule.neededScope, ← hscope], ?_⟩
      rw [← show ws.map (·.candidate) = cs from hcandidates, List.forall₂_map_left_iff,
        List.forall₂_map_right_iff, List.forall₂_same]
      exact fun w hw => (hplanned w hw).paired
    | bareRule r hafter hnodes =>
      rw [hafter] at hscope
      refine ⟨by rw [PairedRule.neededScope, ← hscope], ?_⟩
      rw [← show [] = cs from hcandidates]
      exact .nil

theorem forall₂_placedAt (hbare : NoBareFirst m.document.rules) {tidy : Prop} {ws : List Placement}
    {es : List Gherkin.Element} {els : List Element} (hm : MirrorsAll m ws es els)
    (hplanned : ∀ w ∈ ws, Planned m tidy w.rule w.candidate w.node w.made) {before after : List Counterpart}
    (hsplit : cps = before ++ after) (hes : es = before.map Counterpart.element)
    (hws : ws.map (·.toPosition) = before.flatMap Counterpart.positions) :
    List.Forall₂ (PlacedAt PairedRule.neededScope) before els := by
  induction hm generalizing before after with
  | nil =>
    obtain rfl := List.map_eq_nil_iff.1 hes.symm
    exact .nil
  | @concat ws ws' es e els made hm he ih =>
    obtain ⟨before, last, rfl, hfront, hlast⟩ := List.map_eq_append_iff.1 hes.symm
    obtain ⟨p, rfl, rfl⟩ : ∃ p, last = [p] ∧ p.element = e := by simpa [List.map_eq_cons_iff] using hlast
    subst hfront
    -- There is a placement for each position in front, so the other placements are those of the last element.
    have hlength : (ws.map (·.toPosition)).length = (before.flatMap Counterpart.positions).length := by
      have hplaces := congrArg List.length hm.places
      rw [List.length_map, List.flatMap_map, List.length_flatMap] at hplaces
      rw [List.length_map, hplaces, List.length_flatMap]
      refine congrArg List.sum (List.map_congr_left fun q hq => ?_)
      exact (h.fits q (by simp [hsplit, hq])).length_positions.symm
    rw [List.map_append, List.flatMap_append] at hws
    obtain ⟨hwsFront, hwsLast⟩ := List.append_inj hws hlength
    have hsplit' : cps = before ++ p :: after := by simpa using hsplit
    refine List.rel_append (ih (fun w hw => hplanned w (List.mem_append_left _ hw)) hsplit' rfl hwsFront) ?_
    refine .cons (h.placedAt_of_mirrors hbare hsplit' he ?_ fun w hw =>
      hplanned w (List.mem_append_right _ hw)) .nil
    simpa using hwsLast

/-- Unless a rule without scenarios is in the way, whatever plan there is pairs by position. -/
theorem placed (hbare : NoBareFirst m.document.rules) {μ : Matchers} {plan : TestPlan}
    (hplan : ((assemble m).outcome μ).1 = .ok plan) :
    List.Forall₂ (PlacedAt PairedRule.neededScope) cps plan.feature.elements := by
  obtain ⟨ws, s, ha⟩ := assembled_of_ok hplan
  refine h.forall₂_placedAt hbare ha.mirrors ha.stands.planned (List.append_nil cps).symm h.elements ?_
  have hplaces : (ws.map (·.toPosition)).map Position.place = m.demands.filterMap Demand.node? := by
    rw [ha.stands.nodes, List.map_map]
    rfl
  have hnext : ws.map (·.toPosition) <+: cps.flatMap Counterpart.positions := by
    refine h.positions_prefix hbare ?_ ?_ fun key => ?_
    · exact hplaces ▸ List.prefix_rfl
    · intro x hx
      obtain ⟨w, hw, rfl⟩ := List.mem_map.1 hx
      exact ha.stands.keys w hw
    · rw [List.map_map]
      exact (ha.candidates_filter_eq key).symm ▸ List.prefix_rfl
  refine hnext.eq_of_length ?_
  have hlength := congrArg List.length (hplaces.trans (h.map_place hbare).symm)
  rwa [List.length_map, List.length_map Position.place] at hlength

theorem noBareFirst_of_ok {μ : Matchers} {plan : TestPlan}
    (hplan : ((assemble m).outcome μ).1 = .ok plan) : NoBareFirst m.document.rules := by
  obtain ⟨ws, s, ha⟩ := assembled_of_ok hplan
  exact h.noBareFirst_of_met ha.stands.met

end Aligned

end Plan
end FeaturePlan
