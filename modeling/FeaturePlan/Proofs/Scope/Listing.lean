import FeaturePlan.Proofs.Scope.Walk
import FeaturePlan.Scope.Candidate

/-!
The candidates of a blueprint as its tree lists them. The scenarios and outlines stand in the list in the
order of the tree, and each tells of the scopes that enclose it; there is a list as soon as a feature is
among these for every one of them.
-/
namespace FeaturePlan

def NearestOf (kind : ScopeKind) (way : List Scope) : Option Scope → Prop
  | some s => s.kind = kind ∧ ∃ nearer farther, way = nearer ++ s :: farther ∧ ∀ x ∈ nearer, x.kind ≠ kind
  | none => ∀ x ∈ way, x.kind ≠ kind

theorem nearestOf_find? (kind : ScopeKind) (way : List Scope) :
    NearestOf kind way (way.find? (·.kind = kind)) := by
  cases hfind : way.find? (·.kind = kind) with
  | none =>
    intro x hx
    simpa using List.find?_eq_none.1 hfind x hx
  | some s =>
    obtain ⟨hs, nearer, farther, hway, hnearer⟩ := List.find?_eq_some_iff_append.1 hfind
    exact ⟨of_decide_eq_true hs, nearer, farther, hway, fun x hx => by simpa using hnearer x hx⟩

/-- A candidate tells of a scope and the scopes that enclose it, the nearest first. -/
structure Candidate.TellsOf (b : Blueprint) (s : Scope) (enclosing : List Scope) (c : Candidate) : Prop where
  scope : c.scope = s
  ancestors : enclosing = c.ancestors.reverse ++ [b.root]
  feature : NearestOf .feature c.ancestors.reverse (some c.feature)
  rule : NearestOf .rule c.ancestors.reverse c.rule
  /-- The definitions are those of the scope, then those of each enclosing scope. -/
  steps : c.steps.map StepDefinition.id = (s :: enclosing).flatMap Scope.steps
  registered : ∀ d ∈ c.steps, b.steps.find? d.id = some d
  once : (c.steps.map StepDefinition.id).Nodup
  /-- In every scope the definitions come in the order in which they were registered. -/
  inOrder : ∀ x ∈ s :: enclosing, x.steps.Sublist b.steps.keys

namespace Blueprint

variable {b : Blueprint}

namespace Rooted

variable (h : b.Rooted)
include h

theorem filter_enclosing {s : Scope} {enclosing : List Scope} (hlineage : b.Lineage s (s :: enclosing))
    (hs : s.kind.isExecutable = true) : enclosing.filter (·.kind != .root) ++ [b.root] = enclosing := by
  cases enclosing using List.reverseRecOn with
  | nil =>
    obtain rfl : s = b.root := Option.some.inj hlineage.root
    rw [h.root_kind] at hs
    cases hs
  | append_singleton below top _ =>
    have htop : top = b.root := by
      have hroot := hlineage.root
      rw [← List.cons_append, List.getLast?_concat] at hroot
      exact Option.some.inj hroot
    have hnodup : (below ++ [b.root]).Nodup := htop ▸ (hlineage.nodup h).of_cons
    have hbelow : ∀ x ∈ below, x.kind ≠ .root := by
      intro x hx hkind
      have hmem : x ∈ b.scopes.values := hlineage.subset_values h (by simp [hx])
      have hroot : x = b.root := h.scopes.eq_of_id_eq hmem h.root ((h.scopes.rootKind x hmem).1 hkind)
      exact (List.nodup_append.1 hnodup).2.2 x hx b.root List.mem_cons_self hroot
    rw [htop, List.filter_append, List.filter_cons_of_neg (by simp [h.root_kind]), List.filter_nil,
      List.append_nil, List.filter_eq_self.2 fun x hx => by simpa using hbelow x hx]

theorem candidates_eq_mapM : b.candidates =
    ((b.tree.places []).filter (·.1.kind.isExecutable)).mapM fun place => b.candidate place.1 place.2 := by
  have hvisited : (b.walk.visited.filter (·.kind.isExecutable)) =
      ((b.tree.places []).filter (·.1.kind.isExecutable)).map Prod.fst := by
    rw [walk, (h.run_walkStart (Nat.le_refl _)).2, List.filter_map]
    rfl
  rw [candidates, hvisited]
  refine mapM_map_congr fun place hplace => ?_
  rw [walk, h.above_run (Nat.le_refl _) (Nat.le_refl _) (List.mem_of_mem_filter hplace)]

end Rooted

/-- There is no candidate for a scope if no feature is among the scopes that enclose it. -/
theorem candidate_eq_error_iff {s : Scope} {enclosing : List Scope} {e : ScopeError} :
    b.candidate s enclosing = .error e ↔ e = .orphaned s.describe ∧ ∀ x ∈ enclosing, x.kind ≠ .feature := by
  have hfeature : (∀ x ∈ enclosing.filter (·.kind != .root), x.kind ≠ .feature) ↔
      ∀ x ∈ enclosing, x.kind ≠ .feature := by
    constructor
    · intro h x hx hkind
      exact h x (List.mem_filter.2 ⟨hx, by simp [hkind]⟩) hkind
    · exact fun h x hx => h x (List.mem_of_mem_filter hx)
  have hnearest := nearestOf_find? .feature (enclosing.filter (·.kind != .root))
  rw [candidate]
  cases hfind : (enclosing.filter (·.kind != .root)).find? (·.kind = .feature) with
  | none =>
    rw [hfind] at hnearest
    simp only [Except.error.injEq]
    exact ⟨fun he => ⟨he.symm, hfeature.1 hnearest⟩, fun he => he.1.symm⟩
  | some f =>
    simp only [reduceCtorEq, false_iff, not_and]
    intro _ hnone
    exact hnone f (List.mem_of_mem_filter (List.mem_of_find?_eq_some hfind)) (hfind ▸ hnearest).1

theorem exists_candidate_iff {s : Scope} {enclosing : List Scope} :
    (∃ c, b.candidate s enclosing = .ok c) ↔ ∃ f ∈ enclosing, f.kind = .feature := by
  cases hc : b.candidate s enclosing with
  | error e =>
    obtain ⟨-, hnone⟩ := candidate_eq_error_iff.1 hc
    exact ⟨fun ⟨c, h⟩ => (nomatch h), fun ⟨f, hf, hkind⟩ => absurd hkind (hnone f hf)⟩
  | ok c =>
    refine ⟨fun _ => ?_, fun _ => ⟨c, rfl⟩⟩
    by_contra hnone
    have herror : b.candidate s enclosing = .error (.orphaned s.describe) :=
      candidate_eq_error_iff.2 ⟨rfl, fun x hx hkind => hnone ⟨x, hx, hkind⟩⟩
    rw [hc] at herror
    cases herror

theorem Rooted.steps_of_candidate (h : b.Rooted) {s : Scope} {enclosing : List Scope}
    (hlineage : b.Lineage s (s :: enclosing)) (hs : s.kind.isExecutable = true) {c : Candidate}
    (hc : b.candidate s enclosing = .ok c) :
    c.scope = s ∧ enclosing = c.ancestors.reverse ++ [b.root] ∧
      NearestOf .feature c.ancestors.reverse (some c.feature) ∧ NearestOf .rule c.ancestors.reverse c.rule ∧
      c.steps = (s :: enclosing).flatMap b.stepsOf := by
  have hfeature := nearestOf_find? .feature (enclosing.filter (·.kind != .root))
  have hrule := nearestOf_find? .rule (enclosing.filter (·.kind != .root))
  have henclosing := h.filter_enclosing hlineage hs
  rw [candidate] at hc
  split at hc
  · cases hc
  · next f hf =>
    cases hc
    rw [hf] at hfeature
    simp only [List.reverse_reverse]
    refine ⟨trivial, henclosing.symm, hfeature, hrule, ?_⟩
    conv_rhs => rw [← henclosing]
    simp

theorem Rooted.lineage_of_mem_candidates (h : b.Rooted) {cs : List Candidate} (hcs : b.candidates = .ok cs)
    {c : Candidate} (hc : c ∈ cs) :
    ∃ chain, b.Lineage c.scope chain ∧ c.steps = chain.flatMap b.stepsOf := by
  rw [h.candidates_eq_mapM] at hcs
  obtain ⟨⟨s, enclosing⟩, hplace, hcandidate⟩ := exists_of_mem_right (forall₂_of_mapM_eq_ok hcs) hc
  obtain ⟨hplace, hs⟩ := List.mem_filter.1 hplace
  have hlineage := lineage_of_mem_places b.lineage_root hplace
  obtain ⟨hscope, -, -, -, hsteps⟩ := h.steps_of_candidate hlineage hs hcandidate
  exact ⟨s :: enclosing, hscope ▸ hlineage, hsteps⟩

theorem Rooted.nodup_candidates (h : b.Rooted) {cs : List Candidate} (hcs : b.candidates = .ok cs) :
    (cs.map Candidate.id).Nodup := by
  rw [h.candidates_eq_mapM] at hcs
  have hplaces : ((b.tree.places []).map fun place => place.1.id).Nodup := by
    have hsubperm := h.preorder_subperm b.size
    have hscopes := (nodup_of_subperm hsubperm h.nodup_values).map_on fun s hs s' hs' hid =>
      h.scopes.eq_of_id_eq (hsubperm.subset hs) (hsubperm.subset hs') hid
    rwa [← map_fst_places b b.size b.root [], List.map_map] at hscopes
  have hids : ((b.tree.places []).filter (·.1.kind.isExecutable)).map (fun place => place.1.id) =
      cs.map Candidate.id := by
    refine map_eq_map_of_forall₂ (forall₂_of_mapM_eq_ok hcs) fun place c hc => ?_
    rw [candidate] at hc
    split at hc
    · cases hc
    · cases hc
      rfl
  rw [← hids]
  exact hplaces.sublist (List.filter_sublist.map _)

theorem Rooted.rule_of_mem_candidates (h : b.Rooted) {cs : List Candidate} (hcs : b.candidates = .ok cs)
    {c : Candidate} (hc : c ∈ cs) {r : Scope} (hr : c.rule = some r) : r ∈ b.scopes.values := by
  rw [h.candidates_eq_mapM] at hcs
  obtain ⟨⟨s, enclosing⟩, hplace, hcandidate⟩ := exists_of_mem_right (forall₂_of_mapM_eq_ok hcs) hc
  obtain ⟨hplace, hs⟩ := List.mem_filter.1 hplace
  have hlineage := lineage_of_mem_places b.lineage_root hplace
  obtain ⟨-, hancestors, -, hrule, -⟩ := h.steps_of_candidate hlineage hs hcandidate
  rw [hr] at hrule
  obtain ⟨-, nearer, farther, hway, -⟩ := hrule
  refine hlineage.subset_values h (List.mem_cons_of_mem _ ?_)
  rw [hancestors, hway]
  simp

theorem Grounded.tellsOf (h : b.Grounded) {s : Scope} {enclosing : List Scope}
    (hlineage : b.Lineage s (s :: enclosing)) (hs : s.kind.isExecutable = true) {c : Candidate}
    (hc : b.candidate s enclosing = .ok c) : c.TellsOf b s enclosing := by
  obtain ⟨hscope, hancestors, hfeature, hrule, hsteps⟩ := h.toRooted.steps_of_candidate hlineage hs hc
  have hvalues : s :: enclosing ⊆ b.scopes.values := hlineage.subset_values h.toRooted
  have hids : c.steps.map StepDefinition.id = (s :: enclosing).flatMap Scope.steps := by
    rw [hsteps, List.map_flatMap]
    exact List.flatMap_congr fun x hx => h.map_id_stepsOf (hvalues hx)
  refine ⟨hscope, hancestors, hfeature, hrule, hids, fun d hd => ?_, ?_, fun x hx => ?_⟩
  · rw [hsteps] at hd
    obtain ⟨x, -, hd⟩ := List.mem_flatMap.1 hd
    exact (h.mem_stepsOf_iff.1 hd).2
  · have hsubperm := subperm_flatMap Scope.steps ((hlineage.nodup h.toRooted).subperm hvalues)
    rw [hids]
    exact nodup_of_subperm hsubperm (h.steps.once.nodup_iff.2 h.steps.keyed.nodup)
  · exact h.steps.inOrder x (hvalues hx)

/-- All places of a blueprint, what walks through them come to, and which candidates are found. -/
structure Surveyed (b : Blueprint) (places : List (Scope × List Scope)) : Prop where
  unfolding : b.Unfolding [] [b.root] places
  complete : (places.map Prod.fst).Perm b.scopes.values
  /-- Every walk that is long enough has come to its end, and so has every way back. -/
  walks : ∀ n m, b.size ≤ n → b.size ≤ m → (Walk.run b n b.walkStart).pending = [] ∧
    (Walk.run b n b.walkStart).visited = places.map Prod.fst ∧
    ∀ place ∈ places, (Walk.run b n b.walkStart).above m place.1 = place.2
  ok_iff : (∃ cs, b.candidates = .ok cs) ↔
    ∀ place ∈ places, place.1.kind.isExecutable = true → ∃ f ∈ place.2, f.kind = .feature
  listed : ∀ cs, b.candidates = .ok cs → List.Forall₂ (fun place c => c.TellsOf b place.1 place.2)
    (places.filter (·.1.kind.isExecutable)) cs
  /-- The first scenario or outline outside all features is named. -/
  orphaned : ∀ e, b.candidates = .error e → ∃ before s enclosing after,
    places.filter (·.1.kind.isExecutable) = before ++ (s, enclosing) :: after ∧
      e = .orphaned s.describe ∧ (∀ x ∈ enclosing, x.kind ≠ .feature) ∧
      ∀ place ∈ before, ∃ f ∈ place.2, f.kind = .feature

theorem Grounded.surveyed (h : b.Grounded)
    (hreached : ∀ id ∈ b.scopes.keys, ∃ n < b.size, Reached b.scopes b.root.id n id) :
    b.Surveyed (b.tree.places []) := by
  have hcandidates := h.toRooted.candidates_eq_mapM
  constructor
  case unfolding => exact h.toRooted.unfolding_tree
  case complete =>
    rw [tree, map_fst_places]
    exact h.toRooted.preorder_perm hreached
  case walks =>
    intro n m hn hm
    obtain ⟨hpending, hvisited⟩ := h.toRooted.run_walkStart hn
    exact ⟨hpending, hvisited, fun place hplace => h.toRooted.above_run hn hm hplace⟩
  case listed =>
    intro cs hcs
    rw [hcandidates] at hcs
    refine forall₂_of_mem (fun place hplace c _ hc => ?_) (forall₂_of_mapM_eq_ok hcs)
    obtain ⟨hplace, hs⟩ := List.mem_filter.1 hplace
    exact h.tellsOf (lineage_of_mem_places b.lineage_root hplace) hs hc
  case orphaned =>
    intro e he
    rw [hcandidates] at he
    obtain ⟨before, ⟨s, enclosing⟩, after, hsplit, hbefore, hs⟩ := exists_of_mapM_eq_error he
    obtain ⟨he, hnone⟩ := candidate_eq_error_iff.1 hs
    exact ⟨before, s, enclosing, after, hsplit, he, hnone,
      fun place hplace => exists_candidate_iff.1 (hbefore place hplace)⟩
  case ok_iff =>
    rw [hcandidates]
    constructor
    · rintro ⟨cs, hcs⟩ place hplace hs
      obtain ⟨c, -, hc⟩ := exists_of_mem_left (forall₂_of_mapM_eq_ok hcs) (List.mem_filter.2 ⟨hplace, hs⟩)
      exact exists_candidate_iff.1 ⟨c, hc⟩
    · intro hall
      cases hcs : ((b.tree.places []).filter (·.1.kind.isExecutable)).mapM
          fun place => b.candidate place.1 place.2 with
      | ok cs => exact ⟨cs, rfl⟩
      | error e =>
        -- A loop that fails has come to a place that no feature encloses.
        obtain ⟨before, place, after, hsplit, -, hplace⟩ := exists_of_mapM_eq_error hcs
        have hmem : place ∈ (b.tree.places []).filter (·.1.kind.isExecutable) := by
          rw [hsplit]
          exact List.mem_append_right _ List.mem_cons_self
        obtain ⟨hmem, hs⟩ := List.mem_filter.1 hmem
        obtain ⟨f, hf, hkind⟩ := hall place hmem hs
        exact absurd hkind ((candidate_eq_error_iff.1 hplace).2 f hf)

end Blueprint

/-- Whatever a program registers, and however its scopes are nested, the walk through them ends and lists
its scenarios and outlines. -/
theorem Command.surveyed_of_program {source : IdSource} {program : List Command} {b : Blueprint}
    (hb : (Command.runAll program (.start source)).2.finish = .ok b) : ∃ places, b.Surveyed places := by
  have h := Command.invariant_of_mem_points (Command.runAll_mem_points program (.start source))
  obtain ⟨hscopes, -, hroot⟩ := Registration.finish_eq_ok h.scopes hb
  refine ⟨_, (Blueprint.grounded_of_program hb).surveyed ?_⟩
  rw [hroot, Blueprint.size, hscopes]
  exact h.reached

def matryoshka : List Command :=
  [.entry 0 false (.step (.typed .context) (.phrase "a world") {} none),
    .scope 1 false ⟨.feature, "Outer", {}, none⟩
      [.entry 2 false (.step (.typed .action) (.phrase "I look") {} none),
        .scope 3 false ⟨.rule, "Between", {}, none⟩
          [.scope 4 false ⟨.feature, "Inner", {}, none⟩
            [.scope 5 false ⟨.outline, "Doll", {}, none⟩
              [.scope 6 false ⟨.scenario, "Kernel", {}, none⟩
                [.entry 7 false (.step (.typed .outcome) (.phrase "I see") {} none)] none,
                .entry 8 false (.step (.typed .outcome) (.phrase "I shrug") {} none)] none] none] none,
        .scope 9 false ⟨.scenario, "Shell", {}, none⟩ [] none] none]

theorem matryoshka_surveyed :
    (Command.runAll matryoshka (.start .sequential)).2.finish = .ok (.ofProgram matryoshka) ∧
      (∃ places, (Blueprint.ofProgram matryoshka).Surveyed places) ∧
      ((Blueprint.ofProgram matryoshka).candidates.toOption.map fun cs => cs.map fun c =>
          (c.scope.name, c.feature.name, c.rule.map (·.name), c.steps.map (·.id.text))) = some
        [("Doll", "Inner", some "Between", ["step-4", "step-2", "step-1"]),
          ("Kernel", "Inner", some "Between", ["step-3", "step-4", "step-2", "step-1"]),
          ("Shell", "Outer", none, ["step-2", "step-1"])] := by
  have hb := Blueprint.finish_ofProgram matryoshka
  exact ⟨hb, Command.surveyed_of_program hb, by decide +kernel⟩

end FeaturePlan
