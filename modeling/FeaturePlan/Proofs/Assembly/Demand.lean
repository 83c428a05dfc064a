import FeaturePlan.Plan.Assembly
import FeaturePlan.Proofs.Gherkin.Places

/-!
What a document asks of the candidates. Its rules, scenarios and outlines are taken in order, and each is
a demand under a key of its own: the rules under their canonical names, the nodes under what a candidate
waits under. The first rule of a name has the first rule scope of that name, the second rule the second
scope, and so on, and the same goes for nodes and candidates; a demand is unmet if there are not
enough of them.
-/
namespace FeaturePlan
namespace Plan

def Materials.candidatesUnder (m : Materials) (key : PairKey) : List Candidate :=
  m.candidates.filter (PairKey.ofCandidate · = key)

/-- The rule scopes of a canonical name, in the order in which candidates first mention them. -/
def Materials.rulesNamed (m : Materials) (name : String) : List Scope :=
  (distinctRules [] m.candidates).filter (Text.canonical ·.name = name)

/-- The key of a node in a rule that has a scope, or in none. -/
def placeKey (place : Option PairedRule × Gherkin.Node) : PairKey :=
  .of place.2.kind place.2.name (place.1.map (·.scope.id))

inductive DemandKey where
  | rule (name : String)
  | node (key : PairKey)
deriving DecidableEq

/-- The number of scopes for demands under a key. -/
def Materials.supply (m : Materials) : DemandKey → Nat
  | .rule name => (m.rulesNamed name).length
  | .node key => (m.candidatesUnder key).length

/-- A rule, or a node with the rule around it and the scope of that rule. -/
inductive Demand where
  | rule (rule : Gherkin.Rule)
  | node (rule : Option PairedRule) (node : Gherkin.Node)

namespace Demand

def key : Demand → DemandKey
  | .rule r => .rule (Text.canonical r.name)
  | .node r n => .node (placeKey (r, n))

def rule? : Demand → Option Gherkin.Rule
  | .rule r => some r
  | .node _ _ => none

def node? : Demand → Option (Option PairedRule × Gherkin.Node)
  | .rule _ => none
  | .node r n => some (r, n)

def Needed : Demand → Prop
  | .rule r => r.nodes ≠ []
  | .node _ _ => True

instance : DecidablePred Needed
  | .rule r => inferInstanceAs (Decidable (r.nodes ≠ []))
  | .node _ _ => inferInstanceAs (Decidable True)

def error (m : Materials) : Demand → PairingError
  | .rule r => .missingRule r.name m.document.name
  | .node r n => .missingScope n.kind n.name (r.map (·.rule.name)) m.document.name

/-- There are as many earlier demands under the key as there are scopes. -/
def Unmet (m : Materials) (earlier : List Demand) (d : Demand) : Prop :=
  m.supply d.key ≤ (earlier.map key).count d.key ∧ d.Needed

instance (m : Materials) (earlier : List Demand) (d : Demand) : Decidable (d.Unmet m earlier) :=
  inferInstanceAs (Decidable (_ ∧ _))

theorem count_rule (ds : List Demand) (name : String) :
    (ds.map key).count (.rule name) =
      ((ds.filterMap rule?).filter (Text.canonical ·.name = name)).length := by
  induction ds with
  | nil => rfl
  | cons d ds ih =>
    cases d with
    | node r n => simpa [key, rule?, List.count_cons, List.filterMap_cons] using ih
    | rule r => by_cases h : Text.canonical r.name = name <;> simp [key, rule?, h, ih]

theorem count_node (ds : List Demand) (k : PairKey) :
    (ds.map key).count (.node k) = ((ds.filterMap node?).map placeKey).count k := by
  induction ds with
  | nil => rfl
  | cons d ds ih =>
    cases d with
    | rule r => simpa [key, node?, List.count_cons, List.filterMap_cons] using ih
    | node r n => simp [key, node?, List.count_cons, ih]

end Demand

namespace Materials

variable (m : Materials)

/-- The scope that a rule has behind earlier demands: the one whose number among the scopes of its name
is that of the rule among the rules of its name. -/
def scopeAfter (earlier : List Demand) (r : Gherkin.Rule) : Option Scope :=
  (m.rulesNamed (Text.canonical r.name))[(earlier.map Demand.key).count (.rule (Text.canonical r.name))]?

/-- The demands of an element behind earlier ones: those of a rule, itself first, are made in the scope
that it has. -/
def elementDemands (earlier : List Demand) : Gherkin.Element → List Demand
  | .node n => [.node none n]
  | .rule r =>
    .rule r ::
      match m.scopeAfter earlier r with
      | some scope => r.nodes.map (.node (some ⟨r, scope⟩))
      | none => []

def demandsAfter (earlier : List Demand) : List Gherkin.Element → List Demand
  | [] => []
  | e :: es =>
    m.elementDemands earlier e ++ demandsAfter (earlier ++ m.elementDemands earlier e) es

/-- The demands of the document in order, a rule before what stands in it. -/
def demands : List Demand := m.demandsAfter [] m.document.elements

theorem demandsAfter_append (earlier : List Demand) (xs ys : List Gherkin.Element) :
    m.demandsAfter earlier (xs ++ ys) =
      m.demandsAfter earlier xs ++ m.demandsAfter (earlier ++ m.demandsAfter earlier xs) ys := by
  induction xs generalizing earlier with
  | nil => simp [demandsAfter]
  | cons x xs ih => simp only [List.cons_append, demandsAfter, ih, List.append_assoc]

theorem rules_elementDemands (earlier : List Demand) (e : Gherkin.Element) :
    (m.elementDemands earlier e).filterMap Demand.rule? = e.rule?.toList := by
  have hnodes (pr : PairedRule) (ns : List Gherkin.Node) :
      (ns.map (Demand.node (some pr))).filterMap Demand.rule? = [] := by
    simp [Demand.rule?]
  cases e with
  | node n => rfl
  | rule r =>
    rw [elementDemands]
    cases m.scopeAfter earlier r with
    | none => rfl
    | some scope =>
      simp only [List.filterMap_cons, hnodes]
      rfl

theorem rules_demandsAfter (earlier : List Demand) (es : List Gherkin.Element) :
    (m.demandsAfter earlier es).filterMap Demand.rule? = es.filterMap Gherkin.Element.rule? := by
  induction es generalizing earlier with
  | nil => rfl
  | cons e es ih =>
    rw [demandsAfter, List.filterMap_append, m.rules_elementDemands, ih]
    cases h : e.rule? <;> simp [h]

theorem mem_places_of_mem_demandsAfter {rule : Option PairedRule} {n : Gherkin.Node} {earlier : List Demand}
    {es : List Gherkin.Element} (h : .node rule n ∈ m.demandsAfter earlier es) :
    (rule.map PairedRule.rule, n) ∈ es.flatMap Gherkin.Element.places := by
  induction es generalizing earlier with
  | nil => cases h
  | cons e es ih =>
    rw [List.flatMap_cons, List.mem_append]
    rcases List.mem_append.1 h with h | h
    · refine .inl ?_
      cases e with
      | node n' =>
        cases List.mem_singleton.1 h
        exact List.mem_singleton.2 rfl
      | rule r =>
        rw [elementDemands] at h
        cases hscope : m.scopeAfter earlier r with
        | none => simp [hscope] at h
        | some scope =>
          simp only [hscope, List.mem_cons, reduceCtorEq, false_or, List.mem_map] at h
          obtain ⟨n', hn', he⟩ := h
          cases he
          exact List.mem_map_of_mem hn'
    · exact .inr (ih h)

theorem exists_demand_of_rules {name : String} {before after : List Gherkin.Rule} {r : Gherkin.Rule}
    (h : m.document.rules.filter (Text.canonical ·.name = name) = before ++ r :: after) :
    ∃ earlier later, m.demands = earlier ++ .rule r :: later ∧
      (earlier.map Demand.key).count (.rule name) = before.length := by
  have hrules : m.document.rules = m.demands.filterMap Demand.rule? := (m.rules_demandsAfter [] _).symm
  rw [hrules, List.filter_filterMap] at h
  obtain ⟨front, back, hsplit, rfl, hback⟩ := List.filterMap_eq_append_iff.1 h
  obtain ⟨others, d, later, rfl, hothers, hd, -⟩ := List.filterMap_eq_cons_iff.1 hback
  cases d with
  | node => cases hd
  | rule r' =>
    obtain ⟨hr, -⟩ := Option.filter_eq_some_iff.1 hd
    cases hr
    refine ⟨front ++ others, later, by rw [hsplit, List.append_assoc], ?_⟩
    have hnil := List.filterMap_eq_nil_iff.2 hothers
    rw [Demand.count_rule, List.filter_filterMap, List.filterMap_append, hnil, List.append_nil]

end Materials
end Plan
end FeaturePlan
