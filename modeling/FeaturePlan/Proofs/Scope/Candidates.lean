import FeaturePlan.Proofs.Scope.Listing

/-!
The candidates of a blueprint whose scopes stand where their kinds usually stand. Its features stand in
the root, scenarios and outlines in features and rules, and nothing stands in these; so the candidates are
read off the children of each feature and of its rules.
-/
namespace FeaturePlan
namespace Blueprint

variable {b : Blueprint}

namespace Usual

variable (h : b.Usual)
include h

theorem toRooted : b.Rooted := ⟨h.scopes.toRooted, h.root⟩

theorem kind_of_mem_children {p s : Scope} (hp : p ∈ b.scopes.values) (hs : s ∈ b.children p) :
    p.kind ∈ s.kind.usualParents := by
  obtain ⟨hmem, hid⟩ := h.toRooted.mem_children_iff.1 hs
  exact h.scopes.kinds p hp s hmem hid

theorem root_kind : b.root.kind = .root := h.toRooted.root_kind

theorem feature_of_mem_children {f : Scope} (hf : f ∈ b.children b.root) :
    f ∈ b.scopes.values ∧ f.kind = .feature := by
  refine ⟨(h.toRooted.mem_children_iff.1 hf).1, ?_⟩
  have hkind := h.kind_of_mem_children h.root hf
  rw [h.root_kind] at hkind
  cases hk : f.kind <;> simp [hk, ScopeKind.usualParents] at hkind ⊢

theorem exists_parent {s : Scope} (hs : s ∈ b.scopes.values) (hkind : s.kind ≠ .root) :
    ∃ p ∈ b.scopes.values, s ∈ b.children p := by
  have hkey : s.id ∈ b.scopes.keys := h.scopes.mem_keys_iff.2 ⟨s, hs, rfl⟩
  rcases List.mem_cons.1 (h.scopes.children.mem_iff.2 hkey) with hroot | hchild
  · exact absurd ((h.scopes.rootKind s hs).2 hroot) hkind
  · obtain ⟨p, hp, hid⟩ := List.mem_flatMap.1 hchild
    exact ⟨p, hp, h.toRooted.mem_children_iff.2 ⟨hs, hid⟩⟩

theorem mem_children_root {f : Scope} (hf : f ∈ b.scopes.values) (hkind : f.kind = .feature) :
    f ∈ b.children b.root := by
  obtain ⟨p, hp, hchild⟩ := h.exists_parent hf (by simp [hkind])
  have hparent := h.kind_of_mem_children hp hchild
  rw [hkind, ScopeKind.usualParents, List.mem_singleton, h.scopes.rootKind p hp] at hparent
  rwa [← h.scopes.eq_of_id_eq hp h.root hparent]

theorem kind_of_mem_feature {f s : Scope} (hf : f ∈ b.scopes.values) (hkind : f.kind = .feature)
    (hs : s ∈ b.children f) : s ∈ b.scopes.values ∧ (s.kind.isExecutable = true ∨ s.kind = .rule) := by
  refine ⟨(h.toRooted.mem_children_iff.1 hs).1, ?_⟩
  have hk := h.kind_of_mem_children hf hs
  rw [hkind] at hk
  cases hk' : s.kind <;> simp [hk', ScopeKind.usualParents, ScopeKind.isExecutable] at hk ⊢

theorem kind_of_mem_rule {r s : Scope} (hr : r ∈ b.scopes.values) (hkind : r.kind = .rule)
    (hs : s ∈ b.children r) : s ∈ b.scopes.values ∧ s.kind.isExecutable = true := by
  refine ⟨(h.toRooted.mem_children_iff.1 hs).1, ?_⟩
  have hk := h.kind_of_mem_children hr hs
  rw [hkind] at hk
  cases hk' : s.kind <;> simp [hk', ScopeKind.usualParents, ScopeKind.isExecutable] at hk ⊢

theorem children_of_executable {s : Scope} (hs : s ∈ b.scopes.values)
    (hkind : s.kind.isExecutable = true) : b.children s = [] := by
  refine List.eq_nil_iff_forall_not_mem.2 fun c hc => ?_
  have hk := h.kind_of_mem_children hs hc
  cases hs' : s.kind <;> cases hc' : c.kind <;>
    simp [hs', hc', ScopeKind.usualParents, ScopeKind.isExecutable] at hk hkind

theorem length_le_size (ss : List Scope) (hs : ∀ s ∈ ss, s ∈ b.scopes.values)
    (hkinds : (ss.map Scope.kind).Nodup) : ss.length ≤ b.size := by
  have hids : (ss.map Scope.id).Nodup :=
    (hkinds.of_map _).map_on fun x hx y hy he => h.scopes.eq_of_id_eq (hs x hx) (hs y hy) he
  have hsub : ss.map Scope.id ⊆ b.scopes.keys := by
    intro id hid
    obtain ⟨s, hmem, rfl⟩ := List.mem_map.1 hid
    exact h.scopes.mem_keys_iff.2 ⟨s, hs s hmem, rfl⟩
  have hlength := (List.Nodup.subperm hids hsub).length_le
  rwa [List.length_map, Catalogue.keys, List.length_map] at hlength

theorem two_le_size {f : Scope} (hf : f ∈ b.children b.root) : 2 ≤ b.size := by
  obtain ⟨hfv, hfk⟩ := h.feature_of_mem_children hf
  have hroot := h.root
  refine h.length_le_size [b.root, f] ?_ ?_
  · simp [hroot, hfv]
  · simp [h.root_kind, hfk]

theorem three_le_size {f s : Scope} (hf : f ∈ b.children b.root) (hs : s ∈ b.children f) : 3 ≤ b.size := by
  obtain ⟨hfv, hfk⟩ := h.feature_of_mem_children hf
  obtain ⟨hsv, hsk⟩ := h.kind_of_mem_feature hfv hfk hs
  have hroot := h.root
  refine h.length_le_size [b.root, f, s] ?_ ?_
  · simp [hroot, hfv, hsv]
  · cases hk : s.kind <;> simp [h.root_kind, hfk, hk, ScopeKind.isExecutable] at hsk ⊢

end Usual

def candidateIn (b : Blueprint) (f : Scope) (rule : Option Scope) (s : Scope) : Candidate where
  scope := s
  feature := f
  rule
  ancestors := f :: rule.toList
  steps := (s :: (rule.toList ++ [f, b.root])).flatMap b.stepsOf

def candidatesBelow (b : Blueprint) (f : Scope) : List Candidate :=
  (b.children f).flatMap fun s =>
    if s.kind.isExecutable then [b.candidateIn f none s]
    else (b.children s).map (b.candidateIn f (some s))

theorem feature_of_mem_candidatesBelow {b : Blueprint} {f : Scope} {c : Candidate}
    (hc : c ∈ b.candidatesBelow f) :
    c.feature = f := by
  obtain ⟨s, -, hc⟩ := List.mem_flatMap.1 hc
  split at hc
  · rw [List.mem_singleton.1 hc]
    rfl
  · obtain ⟨x, -, rfl⟩ := List.mem_map.1 hc
    rfl

/-- The scopes that candidates stand for, below a feature in the root, with what encloses them. -/
def executablesBelow (b : Blueprint) (f : Scope) : List (Scope × List Scope) :=
  (b.children f).flatMap fun s =>
    if s.kind.isExecutable then [(s, [f, b.root])] else (b.children s).map (·, [s, f, b.root])

namespace Usual

variable (h : b.Usual)
include h

theorem places_treeTo_of_executable {s : Scope} (hs : s ∈ b.scopes.values)
    (hkind : s.kind.isExecutable = true) (depth : Nat) (enclosing : List Scope) :
    (b.treeTo depth s).places enclosing = [(s, enclosing)] := by
  cases depth with
  | zero => rfl
  | succ depth => rw [places_treeTo_succ, h.children_of_executable hs hkind, List.flatMap_nil]

theorem executables_treeTo_rule {s : Scope} (hs : s ∈ b.scopes.values) (hkind : s.kind = .rule)
    (depth : Nat) (enclosing : List Scope) :
    ((b.treeTo (depth + 1) s).places enclosing).filter (·.1.kind.isExecutable) =
      (b.children s).map (·, s :: enclosing) := by
  have hchildren : (b.children s).flatMap (fun c => (b.treeTo depth c).places (s :: enclosing)) =
      (b.children s).map (·, s :: enclosing) := by
    rw [List.map_eq_flatMap]
    refine List.flatMap_congr fun c hc => ?_
    obtain ⟨hcv, hck⟩ := h.kind_of_mem_rule hs hkind hc
    exact h.places_treeTo_of_executable hcv hck depth (s :: enclosing)
  rw [places_treeTo_succ, hchildren, List.filter_cons_of_neg (by simp [hkind, ScopeKind.isExecutable])]
  refine List.filter_eq_self.2 fun p hp => ?_
  obtain ⟨c, hc, rfl⟩ := List.mem_map.1 hp
  exact (h.kind_of_mem_rule hs hkind hc).2

theorem executables_treeTo_feature {f : Scope} (hf : f ∈ b.children b.root) {depth : Nat}
    (hdepth : b.size = depth + 2) :
    ((b.treeTo (depth + 1) f).places [b.root]).filter (·.1.kind.isExecutable) = b.executablesBelow f := by
  obtain ⟨hfv, hfk⟩ := h.feature_of_mem_children hf
  rw [places_treeTo_succ, List.filter_cons_of_neg (by simp [hfk, ScopeKind.isExecutable]),
    List.filter_flatMap, executablesBelow]
  refine List.flatMap_congr fun s hs => ?_
  obtain ⟨hsv, hse | hsr⟩ := h.kind_of_mem_feature hfv hfk hs
  · rw [h.places_treeTo_of_executable hsv hse]
    simp [hse]
  · -- The tree is deep enough for what stands in the rule.
    obtain ⟨depth, rfl⟩ : ∃ n, depth = n + 1 := ⟨depth - 1, by have := h.three_le_size hf hs; omega⟩
    rw [h.executables_treeTo_rule hsv hsr]
    simp [hsr, ScopeKind.isExecutable]

theorem executables_tree :
    (b.tree.places []).filter (·.1.kind.isExecutable) =
      (b.children b.root).flatMap b.executablesBelow := by
  obtain ⟨depth, hdepth⟩ : ∃ n, b.size = n + 1 := by
    have hsize := h.length_le_size [b.root] (by simpa using h.root) (by simp)
    exact ⟨b.size - 1, by simp at hsize; omega⟩
  rw [tree, hdepth, places_treeTo_succ,
    List.filter_cons_of_neg (by simp [h.root_kind, ScopeKind.isExecutable]), List.filter_flatMap]
  refine List.flatMap_congr fun f hf => ?_
  obtain ⟨n, rfl⟩ : ∃ n, depth = n + 1 := ⟨depth - 1, by have := h.two_le_size hf; omega⟩
  exact h.executables_treeTo_feature hf hdepth

theorem candidate_below {f s : Scope} (hf : f.kind = .feature) :
    b.candidate s [f, b.root] = .ok (b.candidateIn f none s) := by
  simp [candidate, candidateIn, hf, h.root_kind]

theorem candidate_inRule {f r s : Scope} (hf : f.kind = .feature) (hr : r.kind = .rule) :
    b.candidate s [r, f, b.root] = .ok (b.candidateIn f (some r) s) := by
  simp [candidate, candidateIn, hf, hr, h.root_kind]

theorem candidates_eq : b.candidates = .ok ((b.children b.root).flatMap b.candidatesBelow) := by
  rw [h.toRooted.candidates_eq_mapM, h.executables_tree]
  refine mapM_flatMap_eq_ok fun f hf => ?_
  obtain ⟨hfv, hfk⟩ := h.feature_of_mem_children hf
  refine mapM_flatMap_eq_ok fun s hs => ?_
  obtain ⟨hsv, hse | hsr⟩ := h.kind_of_mem_feature hfv hfk hs
  · simp [hse, h.candidate_below hfk]
  · simp only [hsr, ScopeKind.isExecutable, Bool.false_eq_true, if_false]
    exact mapM_map_eq_ok fun c _ => h.candidate_inRule hfk hsr

theorem filter_candidates {f : Scope} (hf : f ∈ b.children b.root) :
    ((b.children b.root).flatMap b.candidatesBelow).filter (·.feature.id = f.id) =
      b.candidatesBelow f := by
  obtain ⟨before, after, hsplit⟩ := List.append_of_mem hf
  have hids := h.toRooted.nodup_children_ids h.root
  rw [hsplit] at hids
  have hother : ∀ g ∈ before ++ after,
      (b.candidatesBelow g).filter (·.feature.id = f.id) = [] := by
    intro g hg
    refine List.filter_eq_nil_iff.2 fun c hc => ?_
    rw [feature_of_mem_candidatesBelow hc]
    simpa using ne_of_nodup_middle hids g hg
  have hself : (b.candidatesBelow f).filter (·.feature.id = f.id) = b.candidatesBelow f := by
    refine List.filter_eq_self.2 fun c hc => ?_
    simp [feature_of_mem_candidatesBelow hc]
  rw [hsplit, List.filter_flatMap, List.flatMap_append, List.flatMap_cons, hself,
    List.flatMap_eq_nil_iff.2 fun g hg => hother g (List.mem_append_left _ hg),
    List.flatMap_eq_nil_iff.2 fun g hg => hother g (List.mem_append_right _ hg)]
  simp

end Usual

end Blueprint
end FeaturePlan
