import FeaturePlan.Proofs.Assembly.Counterpart
import FeaturePlan.Proofs.Scope.Candidates

/-!
Blueprints that mirror a document: below one feature every element of the document has a scope of its
kind and name, in the same order. The scopes of rules are only known from the scenarios in them; so a
rule without scenarios is never paired, and stands in the way of a later rule of its name.
-/
namespace FeaturePlan

def Scope.Answers (s : Scope) (kind : ScopeKind) (name : String) : Prop :=
  s.kind = kind ∧ Text.canonical s.name = Text.canonical name

instance (s : Scope) (kind : ScopeKind) (name : String) : Decidable (s.Answers kind name) :=
  inferInstanceAs (Decidable (_ ∧ _))

namespace Blueprint

open Plan

/-- A scope mirrors an element, and if this is a rule, what the scope contains mirrors its nodes. -/
def MirrorsElement (b : Blueprint) : Gherkin.Element → Scope → Prop
  | .node n, s => s.Answers n.kind n.name
  | .rule r, s => s.Answers .rule r.name ∧
      List.Forall₂ (fun n x => Scope.Answers x n.kind n.name) r.nodes (b.children s)

instance (b : Blueprint) (e : Gherkin.Element) (s : Scope) : Decidable (b.MirrorsElement e s) :=
  match e with
  | .node n => inferInstanceAs (Decidable (s.Answers n.kind n.name))
  | .rule r => inferInstanceAs (Decidable (s.Answers .rule r.name ∧ List.Forall₂ _ _ _))

/-- There is one feature of the name of the document, and what it contains mirrors the elements. -/
structure Mirrors (b : Blueprint) (f : Scope) (d : Gherkin.Document) : Prop where
  feature : f ∈ b.scopes.values
  answers : f.Answers .feature d.name
  only : ∀ s ∈ b.scopes.values, s.Answers .feature d.name → s = f
  elements : List.Forall₂ b.MirrorsElement d.elements (b.children f)

def counterpart (b : Blueprint) (f : Scope) : Gherkin.Element → Scope → Counterpart
  | .node n, s => .node n (b.candidateIn f none s)
  | .rule r, s => .rule r s ((b.children s).map (b.candidateIn f (some s)))

def counterparts (b : Blueprint) (f : Scope) (d : Gherkin.Document) : List Counterpart :=
  d.elements.zipWith (b.counterpart f) (b.children f)

def positions (b : Blueprint) (f : Scope) (d : Gherkin.Document) : List Position :=
  (b.counterparts f d).flatMap Counterpart.positions

def materials (b : Blueprint) (f : Scope) (d : Gherkin.Document) (limit : Nat) : Materials :=
  ⟨d, f, b.candidatesBelow f, b.parameters, limit⟩

/-- Every step of the document has a definition among those of the scope at its place and of the scopes
around that. -/
def Defines (b : Blueprint) (f : Scope) (d : Gherkin.Document) (limit : Nat) : Prop :=
  ∀ x ∈ b.positions f d, ∀ draft ∈ x.drafts (b.materials f d limit),
    ∀ step ∈ draft.execution.gherkinSteps, Defined b.parameters x.candidate.steps step

def identities (b : Blueprint) (f : Scope) (d : Gherkin.Document) (limit : Nat) : List (String × String) :=
  (b.positions f d).flatMap fun x => (x.drafts (b.materials f d limit)).map Draft.identity

instance (b : Blueprint) (f : Scope) (d : Gherkin.Document) : Decidable (b.Mirrors f d) :=
  decidable_of_iff (f ∈ b.scopes.values ∧ f.Answers .feature d.name ∧
      (∀ s ∈ b.scopes.values, s.Answers .feature d.name → s = f) ∧
        List.Forall₂ b.MirrorsElement d.elements (b.children f))
    ⟨fun h => ⟨h.1, h.2.1, h.2.2.1, h.2.2.2⟩, fun h => ⟨h.feature, h.answers, h.only, h.elements⟩⟩

instance (b : Blueprint) (f : Scope) (d : Gherkin.Document) (limit : Nat) :
    Decidable (b.Defines f d limit) :=
  inferInstanceAs (Decidable (∀ x ∈ b.positions f d, ∀ draft ∈ x.drafts (b.materials f d limit),
    ∀ step ∈ draft.execution.gherkinSteps, Defined b.parameters x.candidate.steps step))

section Elements

variable {b : Blueprint} {f : Scope} {es : List Gherkin.Element} {ss : List Scope}

theorem map_element_counterparts (h : List.Forall₂ b.MirrorsElement es ss) :
    (es.zipWith (b.counterpart f) ss).map Counterpart.element = es := by
  induction h with
  | nil => rfl
  | @cons e s es ss he _ ih =>
    rw [List.zipWith_cons_cons, List.map_cons, ih]
    cases e <;> rfl

theorem flatMap_candidates_counterparts (h : List.Forall₂ b.MirrorsElement es ss) :
    (es.zipWith (b.counterpart f) ss).flatMap Counterpart.candidates =
      ss.flatMap fun s => if s.kind.isExecutable then [b.candidateIn f none s]
        else (b.children s).map (b.candidateIn f (some s)) := by
  induction h with
  | nil => rfl
  | @cons e s es ss he _ ih =>
    rw [List.zipWith_cons_cons, List.flatMap_cons, List.flatMap_cons, ih]
    cases e with
    | node n =>
      have hkind : s.kind.isExecutable = true := by
        rw [he.1]
        cases n <;> rfl
      rw [if_pos hkind]
      rfl
    | rule r =>
      have hkind : s.kind.isExecutable = false := by rw [he.1.1]; rfl
      rw [if_neg (by simp [hkind])]
      rfl

theorem fits_of_mem_counterparts (h : List.Forall₂ b.MirrorsElement es ss) :
    ∀ p ∈ es.zipWith (b.counterpart f) ss, p.Fits := by
  induction h with
  | nil => simp
  | @cons e s es ss he _ ih =>
    rw [List.zipWith_cons_cons]
    intro p hp
    rcases List.mem_cons.1 hp with rfl | hp
    · cases e with
      | node n =>
        refine .node rfl ?_
        simp [PairKey.ofCandidate, placeKey, PairKey.of, candidateIn, he.1, he.2]
      | rule r =>
        refine .rule he.1.2 ?_
        rw [List.forall₂_map_right_iff]
        refine he.2.imp fun n x hx => ⟨rfl, ?_⟩
        simp [PairKey.ofCandidate, placeKey, PairKey.of, candidateIn, hx.1, hx.2]
    · exact ih p hp

theorem pairedRules_counterparts_sublist (b : Blueprint) (f : Scope) (es : List Gherkin.Element)
    (ss : List Scope) :
    ((pairedRules (es.zipWith (b.counterpart f) ss)).map (·.scope)).Sublist ss := by
  induction es generalizing ss with
  | nil => simp [pairedRules]
  | cons e es ih =>
    cases ss with
    | nil => simp [pairedRules]
    | cons s ss =>
      cases e with
      | node n => exact (ih ss).cons s
      | rule r => exact (ih ss).cons_cons s

end Elements

namespace Usual

variable {b : Blueprint} (h : b.Usual) {f : Scope} {d : Gherkin.Document} (hm : b.Mirrors f d)
include h hm

theorem feature_mem : f ∈ b.children b.root := h.mem_children_root hm.feature hm.answers.1

theorem aligned (limit : Nat) : Aligned (b.materials f d limit) (b.counterparts f d) where
  elements := (map_element_counterparts hm.elements).symm
  candidates := (flatMap_candidates_counterparts hm.elements).symm
  fits := fits_of_mem_counterparts hm.elements
  rules := by
    have hids := h.toRooted.nodup_children_ids hm.feature
    have hsub := (pairedRules_counterparts_sublist b f d.elements (b.children f)).map Scope.id
    rw [List.map_map] at hsub
    exact hids.sublist hsub

theorem ofDocument_eq (limit : Nat) : ofDocument limit d b = assemble (b.materials f d limit) := by
  have hfound : ((b.children b.root).find? fun s =>
      s.kind = .feature && Text.canonical s.name = Text.canonical d.name) = some f := by
    cases hfind : (b.children b.root).find? fun s =>
        s.kind = .feature && Text.canonical s.name = Text.canonical d.name with
    | none =>
      have hf := List.find?_eq_none.1 hfind f (h.feature_mem hm)
      simp [hm.answers.1, hm.answers.2] at hf
    | some s =>
      have hs := List.find?_some hfind
      have hmem := (h.toRooted.mem_children_iff.1 (List.mem_of_find?_eq_some hfind)).1
      rw [hm.only s hmem (by simpa [Scope.Answers] using hs)]
  unfold ofDocument
  rw [h.candidates_eq]
  simp only [pure_bind, hfound]
  rw [materials, Materials.ofFeature, h.filter_candidates (h.feature_mem hm)]

end Usual

/-- A blueprint with a feature that mirrors the document gives a plan exactly if no rule without scenarios
stands before one with scenarios of its name. The plan then pairs by position all but the rules
without scenarios, so that it pairs everything exactly if there are none of these. -/
theorem ofDocument_mirrored {program : List Command} (hprogram : Conventional program)
    {source : IdSource} {b : Blueprint}
    (hb : (Command.runAll program (.start source)).2.finish = .ok b) {f : Scope} {d : Gherkin.Document}
    (hm : b.Mirrors f d) {limit : Nat} (hsteps : b.Defines f d limit)
    (hdistinct : Distinct (b.identities f d limit)) {μ : Matchers} (hμ : μ.Sound b.parameters) :
    ((∃ plan, ((ofDocument limit d b).outcome μ).1 = .ok plan ∧ plan.feature.scope = f ∧
        List.Forall₂ (PlacedAt fun pr => some pr.scope) (b.counterparts f d) plan.feature.elements) ↔
      ∀ r ∈ d.rules, r.nodes ≠ []) ∧
    ((∃ plan, ((ofDocument limit d b).outcome μ).1 = .ok plan) ↔ NoBareFirst d.rules) ∧
    ∀ plan, ((ofDocument limit d b).outcome μ).1 = .ok plan → plan.feature.scope = f ∧
      List.Forall₂ (PlacedAt PairedRule.neededScope) (b.counterparts f d) plan.feature.elements := by
  have husual := usual_of_conventional hprogram hb
  have haligned := husual.aligned hm limit
  rw [husual.ofDocument_eq hm]
  have hiff : (∃ plan, ((assemble (b.materials f d limit)).outcome μ).1 = .ok plan) ↔
      NoBareFirst d.rules := by
    refine ⟨fun ⟨plan, hplan⟩ => haligned.noBareFirst_of_ok hplan, fun hbare => ?_⟩
    exact haligned.exists_plan hbare (fun x hx draft hd => exists_resolves (hsteps x hx draft hd))
      hdistinct hμ
  have hplaced : ∀ plan, ((assemble (b.materials f d limit)).outcome μ).1 = .ok plan →
      plan.feature.scope = f ∧
        List.Forall₂ (PlacedAt PairedRule.neededScope) (b.counterparts f d) plan.feature.elements := by
    intro plan hplan
    obtain ⟨ws, s, ha⟩ := assembled_of_ok hplan
    exact ⟨ha.scope, haligned.placed (haligned.noBareFirst_of_ok hplan) hplan⟩
  -- To pair everything, and to pair what needs a scope, differ only in rules without scenarios.
  have hrules : (∀ pr ∈ pairedRules (b.counterparts f d), pr.rule.nodes ≠ []) ↔
      ∀ r ∈ d.rules, r.nodes ≠ [] := by
    rw [show d.rules = _ from haligned.document_rules, List.forall_mem_map]
  refine ⟨⟨?_, fun hnodes => ?_⟩, hiff, hplaced⟩
  · rintro ⟨plan, hplan, -, hall⟩
    exact hrules.1 ((forall₂_placedAt_some_iff (hplaced plan hplan).2).1 hall)
  · have hbare : NoBareFirst d.rules :=
      List.pairwise_of_forall_mem_list fun r hr _ _ _ hempty => absurd hempty (hnodes r hr)
    obtain ⟨plan, hplan⟩ := hiff.2 hbare
    obtain ⟨hscope, hneeded⟩ := hplaced plan hplan
    exact ⟨plan, hplan, hscope, (forall₂_placedAt_some_iff hneeded).2 (hrules.2 hnodes)⟩

section Shop

def shop (bodies : List (List Command)) : List Command :=
  [.scope 0 false (.usual .feature "Shop")
    (.entry 1 false (.step (.typed .context) (.phrase "a cart") {} none) ::
      bodies.map fun body => .scope 2 false (.usual .rule "Guests") body none) none]

def checkout : Command := .scope 3 false (.usual .scenario "Checkout") [] none

def ofShop (bodies : List (List Command)) : Blueprint :=
  let r := (Command.runAll (shop bodies) (.start .sequential)).2
  let root := (r.scopes.find? r.root).getD ⟨r.root, .root, "", .standard, {}, [], [], []⟩
  ⟨root, r.scopes, r.steps, r.hooks, r.parameters⟩

theorem finish_ofShop {bodies : List (List Command)}
    (h : (Command.runAll (shop bodies) (.start .sequential)).2.scopes.contains
      (Command.runAll (shop bodies) (.start .sequential)).2.root = true) :
    (Command.runAll (shop bodies) (.start .sequential)).2.finish = .ok (ofShop bodies) := by
  obtain ⟨root, hroot⟩ := Option.isSome_iff_exists.1 h
  simp only [Registration.finish, ofShop, hroot, Option.getD_some]

def shopScope (rules : List ScopeId) : Scope where
  id := ⟨"feature-1"⟩
  kind := .feature
  name := "Shop"
  mode := .standard
  steps := [⟨"step-1"⟩]
  children := rules

def cart : Gherkin.Step where
  keyword := "Given"
  type := .context
  conjunction := false
  text := "a cart"
  line := 4

def shopDocument (counts : List Nat) : Gherkin.Document where
  keyword := "Feature"
  name := "Shop"
  description := none
  tags := []
  background := none
  elements := counts.map fun count => .rule {
    keyword := "Rule", name := "Guests", tags := [], background := none
    nodes := List.replicate count (.scenario
      { keyword := "Scenario", name := "Checkout", tags := [], steps := [cart], line := 3 }) }
  path := none

theorem ofShop_mirrored : ∃ plan,
    ((ofDocument 5 (shopDocument [1, 1]) (ofShop [[checkout], [checkout]])).outcome {}).1 = .ok plan ∧
      plan.feature.scope = shopScope [⟨"rule-1"⟩, ⟨"rule-2"⟩] ∧
      List.Forall₂ (PlacedAt fun pr => some pr.scope)
        ((ofShop [[checkout], [checkout]]).counterparts (shopScope [⟨"rule-1"⟩, ⟨"rule-2"⟩])
          (shopDocument [1, 1])) plan.feature.elements := by
  have hprogram : Conventional (shop [[checkout], [checkout]]) := by decide
  have hfinish : (Command.runAll (shop [[checkout], [checkout]]) (.start .sequential)).2.finish =
      .ok (ofShop [[checkout], [checkout]]) := finish_ofShop (by decide +kernel)
  have hmirror : (ofShop [[checkout], [checkout]]).Mirrors (shopScope [⟨"rule-1"⟩, ⟨"rule-2"⟩])
      (shopDocument [1, 1]) := by decide +kernel
  have hsteps : (ofShop [[checkout], [checkout]]).Defines (shopScope [⟨"rule-1"⟩, ⟨"rule-2"⟩])
      (shopDocument [1, 1]) 5 := by decide +kernel
  have hdistinct : Distinct ((ofShop [[checkout], [checkout]]).identities
      (shopScope [⟨"rule-1"⟩, ⟨"rule-2"⟩]) (shopDocument [1, 1]) 5) := by decide +kernel
  have hnodes : ∀ r ∈ (shopDocument [1, 1]).rules, r.nodes ≠ [] := by decide
  exact (ofDocument_mirrored hprogram hfinish hmirror hsteps hdistinct
    (Matchers.sound_empty _)).1.2 hnodes

/-- A rule without scenarios takes the scope of the next rule of its name, whose place is then empty. -/
theorem bareRule_first : Conventional (shop [[], [checkout]]) ∧
    (Command.runAll (shop [[], [checkout]]) (.start .sequential)).2.finish = .ok (ofShop [[], [checkout]]) ∧
    (ofShop [[], [checkout]]).Mirrors (shopScope [⟨"rule-1"⟩, ⟨"rule-2"⟩]) (shopDocument [0, 1]) ∧
    (ofShop [[], [checkout]]).Defines (shopScope [⟨"rule-1"⟩, ⟨"rule-2"⟩]) (shopDocument [0, 1]) 5 ∧
    Distinct ((ofShop [[], [checkout]]).identities (shopScope [⟨"rule-1"⟩, ⟨"rule-2"⟩])
      (shopDocument [0, 1]) 5) ∧
    ¬ ∃ plan, ((ofDocument 5 (shopDocument [0, 1]) (ofShop [[], [checkout]])).outcome {}).1 = .ok plan := by
  have hprogram : Conventional (shop [[], [checkout]]) := by decide
  have hfinish : (Command.runAll (shop [[], [checkout]]) (.start .sequential)).2.finish =
      .ok (ofShop [[], [checkout]]) := finish_ofShop (by decide +kernel)
  have hfails : ((ofDocument 5 (shopDocument [0, 1]) (ofShop [[], [checkout]])).outcome {}).1.isOk = false := by
    decide +kernel
  refine ⟨hprogram, hfinish, by decide +kernel, by decide +kernel, by decide +kernel, fun h => ?_⟩
  obtain ⟨plan, hplan⟩ := h
  rw [hplan] at hfails
  cases hfails

end Shop

end Blueprint
end FeaturePlan
