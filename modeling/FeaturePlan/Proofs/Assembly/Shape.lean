import FeaturePlan.Proofs.Assembly.History
import FeaturePlan.Proofs.Assembly.Walk
import FeaturePlan.Proofs.Scope.Candidates
import FeaturePlan.Proofs.Scope.WellFormed

/-!
The shape of what is registered if every scope is asked for where its kind usually stands. Whatever is
refused, fails or is tolerated on the way, the scenarios and outlines stand in features of the root or in
rules of such features; so each is a candidate for one feature, and no plan fails over a scope that stands
elsewhere.
-/
namespace FeaturePlan

/-- A candidate that stands in a feature of the root, or in a rule of such a feature. -/
structure Candidate.Shaped (b : Blueprint) (c : Candidate) : Prop where
  executable : c.scope.kind.isExecutable = true
  feature : c.feature ∈ b.children b.root ∧ c.feature.kind = .feature
  place : c.rule = none ∧ c.ancestors = [c.feature] ∧ c.scope ∈ b.children c.feature ∨
    ∃ r, c.rule = some r ∧ r.kind = .rule ∧ c.ancestors = [c.feature, r] ∧ r ∈ b.children c.feature ∧
      c.scope ∈ b.children r

namespace Blueprint
namespace Usual

variable {b : Blueprint} (h : b.Usual)
include h

theorem shaped_of_mem_candidatesBelow {f : Scope} (hf : f ∈ b.children b.root) {c : Candidate}
    (hc : c ∈ b.candidatesBelow f) : c.Shaped b := by
  obtain ⟨hfv, hfk⟩ := h.feature_of_mem_children hf
  obtain ⟨s, hs, hc⟩ := List.mem_flatMap.1 hc
  obtain ⟨hsv, hsk⟩ := h.kind_of_mem_feature hfv hfk hs
  split at hc
  · next hexecutable =>
    rw [List.mem_singleton.1 hc]
    exact ⟨hexecutable, ⟨hf, hfk⟩, .inl ⟨rfl, rfl, hs⟩⟩
  · next hexecutable =>
    have hrule : s.kind = .rule := hsk.resolve_left hexecutable
    obtain ⟨x, hx, rfl⟩ := List.mem_map.1 hc
    exact ⟨(h.kind_of_mem_rule hsv hrule hx).2, ⟨hf, hfk⟩, .inr ⟨s, rfl, hrule, rfl, hs, hx⟩⟩

theorem exists_mem_candidatesBelow {s : Scope} (hs : s ∈ b.scopes.values)
    (hkind : s.kind.isExecutable = true) :
    ∃ f ∈ b.children b.root, ∃ c ∈ b.candidatesBelow f, c.scope = s := by
  obtain ⟨p, hp, hchild⟩ := h.exists_parent hs fun hroot => by simp [hroot, ScopeKind.isExecutable] at hkind
  have hparent : p.kind = .feature ∨ p.kind = .rule := by
    have hpk := h.kind_of_mem_children hp hchild
    cases hk : s.kind <;> simp [hk, ScopeKind.isExecutable, ScopeKind.usualParents] at hkind hpk <;> exact hpk
  rcases hparent with hfeature | hrule
  · refine ⟨p, h.mem_children_root hp hfeature, b.candidateIn p none s, ?_, rfl⟩
    exact List.mem_flatMap.2 ⟨s, hchild, by simp [hkind]⟩
  · obtain ⟨f, hf, hpf⟩ := h.exists_parent hp (by simp [hrule])
    have hfeature : f.kind = .feature := by
      have hfk := h.kind_of_mem_children hf hpf
      rwa [hrule, ScopeKind.usualParents, List.mem_singleton] at hfk
    refine ⟨f, h.mem_children_root hf hfeature, b.candidateIn f (some p) s, ?_, rfl⟩
    refine List.mem_flatMap.2 ⟨p, hpf, ?_⟩
    rw [if_neg (by simp [hrule, ScopeKind.isExecutable])]
    exact List.mem_map_of_mem hchild

theorem eq_of_mem_candidatesBelow {f f' : Scope} (hf : f ∈ b.children b.root)
    (hf' : f' ∈ b.children b.root) {c c' : Candidate} (hc : c ∈ b.candidatesBelow f)
    (hc' : c' ∈ b.candidatesBelow f') (hscope : c.scope = c'.scope) : f = f' := by
  have hnodup := h.toRooted.nodup_candidates h.candidates_eq
  rw [List.map_flatMap] at hnodup
  refine eq_of_mem_flatMap hnodup hf hf' (y := c.id) (List.mem_map_of_mem hc) ?_
  rw [Candidate.id, hscope]
  exact List.mem_map_of_mem hc'

theorem existsUnique_feature {s : Scope} (hs : s ∈ b.scopes.values) (hkind : s.kind.isExecutable = true) :
    ∃! f, f ∈ b.children b.root ∧ ∃ c ∈ b.candidatesBelow f, c.scope = s := by
  obtain ⟨f, hf, c, hc, hscope⟩ := h.exists_mem_candidatesBelow hs hkind
  refine ⟨f, ⟨hf, c, hc, hscope⟩, ?_⟩
  rintro f' ⟨hf', c', hc', hscope'⟩
  exact h.eq_of_mem_candidatesBelow hf' hf hc' hc (hscope'.trans hscope.symm)

end Usual
end Blueprint

namespace Plan

theorem assemble_ne_scope (m : Materials) (μ : Matchers) (cause : ScopeError) :
    ((assemble m).outcome μ).1 ≠ .error (.scope cause) := by
  have hends := (@assemble_ends m False μ nofun).1
  generalize ((assemble m).outcome μ).1 = result at hends
  rintro rfl
  cases hends with
  | stopped hstops =>
    obtain ⟨_, _, _, _, _, -, -, hfault⟩ := hstops
    cases hfault

theorem ofDocument_ne_scope {b : Blueprint} {cs : List Candidate} (hcs : b.candidates = .ok cs)
    (limit : Nat) (d : Gherkin.Document) (μ : Matchers) (cause : ScopeError) :
    ((ofDocument limit d b).outcome μ).1 ≠ .error (.scope cause) := by
  unfold ofDocument
  rw [hcs]
  simp only [pure_bind]
  split
  · exact assemble_ne_scope _ μ cause
  · exact nofun

/-- Whatever identifiers are drawn and whatever fails, if every scope is asked for where its kind usually
stands, all scenarios and outlines stand in features of the root or in rules of these, and each is a
candidate for the one feature it stands in. -/
theorem shaped_of_conventional {program : List Command} (h : Conventional program) (source : IdSource) :
    ∃ b cs, (Command.runAll program (.start source)).2.finish = .ok b ∧ b.candidates = .ok cs ∧
      (∀ c ∈ cs, c.Shaped b) ∧
      ∀ limit d,
        (∀ s ∈ b.scopes.values, s.kind.isExecutable = true →
          ∃! f, f ∈ b.children b.root ∧
            ∃ c ∈ (Materials.ofFeature d f cs b.parameters limit).candidates, c.scope = s) ∧
        ∀ μ cause, ((ofDocument limit d b).outcome μ).1 ≠ .error (.scope cause) := by
  have hinvariant := Command.invariant_of_mem_points (Command.runAll_mem_points program (.start source))
  obtain ⟨b, hb, -, -⟩ := hinvariant.exists_finish
  have husual := usual_of_conventional h hb
  refine ⟨b, _, hb, husual.candidates_eq, fun c hc => ?_, fun limit d => ⟨fun s hs hkind => ?_, ?_⟩⟩
  · obtain ⟨f, hf, hc⟩ := List.mem_flatMap.1 hc
    exact husual.shaped_of_mem_candidatesBelow hf hc
  · -- What is handed to the assembly for a feature are the candidates below it.
    have hcandidates (f : Scope) : (f ∈ b.children b.root ∧ ∃ c ∈ (Materials.ofFeature d f
        ((b.children b.root).flatMap b.candidatesBelow) b.parameters limit).candidates, c.scope = s) ↔
        f ∈ b.children b.root ∧ ∃ c ∈ b.candidatesBelow f, c.scope = s :=
      and_congr_right fun hf => by rw [Materials.ofFeature, husual.filter_candidates hf]
    simp only [hcandidates]
    exact husual.existsUnique_feature hs hkind
  · exact ofDocument_ne_scope husual.candidates_eq limit d

section Stall

/-- A feature in a feature, a rule in a rule, a scenario in an outline and one in the root are refused and
tolerated; a scenario fails, and its rule with it; and a rule in the root ends the program. -/
def stall : List Command :=
  [.scope 0 false (.usual .feature "Stall")
      [.scope 1 true (.usual .feature "Inner") [] none,
        .scope 2 true (.usual .rule "Guests")
          [.scope 3 true (.usual .rule "Members") [] none,
            .scope 4 false (.usual .scenario "Enter") [] (some (.duplicateId "door"))] none,
        .scope 5 true (.usual .rule "Members") [] none,
        .scope 6 false (.usual .outline "Buy")
          [.scope 7 true (.usual .scenario "Pay") [] none,
            .entry 8 false (.step (.typed .action) (.phrase "I buy") {} none)] none] none,
    .scope 9 true (.usual .scenario "Leave") [] none,
    .scope 10 false (.usual .rule "Members") [] none,
    .scope 11 false (.usual .feature "Closed") [] none]

def stallIds : IdSource := .ofList "root" ["stall", "guests", "enter", "stall", "buy"]

theorem stall_shaped : Conventional stall ∧
    ∃ b cs, (Command.runAll stall (.start stallIds)).2.finish = .ok b ∧ b.candidates = .ok cs ∧
      (∀ c ∈ cs, c.Shaped b) ∧
      cs.map (fun c => (c.scope.name, c.ancestors.map (·.name))) =
        [("Enter", ["Stall", "Guests"]), ("Buy", ["Stall"])] ∧
      ∀ limit d μ cause, ((ofDocument limit d b).outcome μ).1 ≠ .error (.scope cause) := by
  have h : Conventional stall := by decide
  obtain ⟨b, cs, hb, hcs, hshaped, hplan⟩ := shaped_of_conventional h stallIds
  have hnames : ((Command.runAll stall (.start stallIds)).2.finish.toOption.bind fun b =>
      b.candidates.toOption.map fun cs => cs.map fun c => (c.scope.name, c.ancestors.map (·.name))) =
        some [("Enter", ["Stall", "Guests"]), ("Buy", ["Stall"])] := by decide +kernel
  rw [hb] at hnames
  simp only [Except.toOption, Option.bind_some, hcs, Option.map_some] at hnames
  exact ⟨h, b, cs, hb, hcs, hshaped, Option.some.inj hnames, fun limit d => (hplan limit d).2⟩

end Stall

end Plan
end FeaturePlan
