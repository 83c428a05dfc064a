import FeaturePlan.Proofs.Scope.Registration

/-!
The tree of a blueprint whose scopes are children of one scope each. Its scopes in preorder are all scopes
once each, as soon as every scope is reached from the root within the depth to which the tree is drawn.
-/
namespace FeaturePlan

def IsChild (scopes : Catalogue ScopeId Scope) (parent child : ScopeId) : Prop :=
  ∃ p, scopes.find? parent = some p ∧ child ∈ p.children

/-- A scope is reached from the root in so many steps from a scope to a child of it. -/
inductive Reached (scopes : Catalogue ScopeId Scope) (root : ScopeId) : Nat → ScopeId → Prop
  | root : Reached scopes root 0 root
  | child {n : Nat} {parent child : ScopeId} (hparent : Reached scopes root n parent)
      (hchild : IsChild scopes parent child) : Reached scopes root (n + 1) child

theorem Reached.reflTransGen {scopes : Catalogue ScopeId Scope} {root id : ScopeId} {n : Nat}
    (h : Reached scopes root n id) : Relation.ReflTransGen (IsChild scopes) root id := by
  induction h with
  | root => exact .refl
  | child _ hchild ih => exact ih.tail hchild

mutual

/-- The scopes of a tree, each before what it contains and with the scopes that enclose it, the nearest
first. -/
def ScopeTree.places (enclosing : List Scope) : ScopeTree → List (Scope × List Scope)
  | .node s cs => (s, enclosing) :: ScopeTree.placesAll (s :: enclosing) cs

def ScopeTree.placesAll (enclosing : List Scope) : List ScopeTree → List (Scope × List Scope)
  | [] => []
  | t :: ts => t.places enclosing ++ ScopeTree.placesAll enclosing ts

end

theorem placesAll_eq (enclosing : List Scope) (ts : List ScopeTree) :
    ScopeTree.placesAll enclosing ts = ts.flatMap (ScopeTree.places enclosing) := by
  induction ts with
  | nil => rfl
  | cons t ts ih => rw [ScopeTree.placesAll, ih, List.flatMap_cons]

theorem preorderAll_eq (ts : List ScopeTree) :
    ScopeTree.preorderAll ts = ts.flatMap ScopeTree.preorder := by
  induction ts with
  | nil => rfl
  | cons t ts ih => rw [ScopeTree.preorderAll, ih, List.flatMap_cons]

namespace Blueprint

variable {b : Blueprint}

theorem places_treeTo_succ (b : Blueprint) (depth : Nat) (s : Scope) (enclosing : List Scope) :
    (b.treeTo (depth + 1) s).places enclosing =
      (s, enclosing) :: (b.children s).flatMap fun c => (b.treeTo depth c).places (s :: enclosing) := by
  rw [treeTo, ScopeTree.places, placesAll_eq, List.flatMap_map]

theorem preorder_treeTo_succ (b : Blueprint) (depth : Nat) (s : Scope) :
    (b.treeTo (depth + 1) s).preorder =
      s :: (b.children s).flatMap fun c => (b.treeTo depth c).preorder := by
  rw [treeTo, ScopeTree.preorder, preorderAll_eq, List.flatMap_map]

theorem map_fst_places (b : Blueprint) (depth : Nat) (s : Scope) (enclosing : List Scope) :
    ((b.treeTo depth s).places enclosing).map Prod.fst = (b.treeTo depth s).preorder := by
  induction depth generalizing s enclosing with
  | zero => rfl
  | succ depth ih =>
    rw [places_treeTo_succ, preorder_treeTo_succ, List.map_cons, List.map_flatMap]
    exact congrArg (s :: ·) (List.flatMap_congr fun c _ => ih c (s :: enclosing))

theorem mem_preorder_treeTo (b : Blueprint) (depth : Nat) (s : Scope) :
    s ∈ (b.treeTo depth s).preorder := by
  cases depth with
  | zero => exact List.mem_cons_self
  | succ depth =>
    rw [preorder_treeTo_succ]
    exact List.mem_cons_self

/-- One step deeper, the tree has the children of all its scopes. -/
theorem preorder_treeTo_perm (b : Blueprint) (depth : Nat) (s : Scope) :
    (b.treeTo (depth + 1) s).preorder.Perm (s :: ((b.treeTo depth s).preorder.flatMap b.children)) := by
  induction depth generalizing s with
  | zero =>
    rw [preorder_treeTo_succ]
    simp [treeTo, ScopeTree.preorder, ScopeTree.preorderAll]
  | succ depth ih =>
    rw [preorder_treeTo_succ b (depth + 1), preorder_treeTo_succ b depth, List.flatMap_cons,
      List.flatMap_assoc]
    have hchildren := List.map_append_flatMap_perm (b.children s) id fun c =>
      (b.treeTo depth c).preorder.flatMap b.children
    rw [List.map_id] at hchildren
    exact ((List.Perm.flatMap_left _ fun c _ => ih c).trans hchildren.symm).cons s

/-- A finished registration in which every scope but the root is a child of one scope. -/
structure Rooted (b : Blueprint) : Prop where
  scopes : FeaturePlan.Rooted b.root.id b.scopes
  root : b.root ∈ b.scopes.values

theorem rooted_of_finish {r : Registration} (h : FeaturePlan.Rooted r.root r.scopes)
    (hb : r.finish = .ok b) : b.Rooted := by
  obtain ⟨hscopes, hmem, hid⟩ := Registration.finish_eq_ok h hb
  rw [← hscopes] at hmem h
  rw [← hid] at h
  exact ⟨h, hmem⟩

namespace Rooted

variable (h : b.Rooted)
include h

theorem root_kind : b.root.kind = .root := (h.scopes.rootKind b.root h.root).2 rfl

theorem mem_children_iff {p s : Scope} :
    s ∈ b.children p ↔ s ∈ b.scopes.values ∧ s.id ∈ p.children := by
  simp only [children, List.mem_filterMap, h.scopes.find?_eq_some_iff]
  constructor
  · rintro ⟨id, hid, hs, rfl⟩
    exact ⟨hs, hid⟩
  · exact fun hs => ⟨s.id, hs.2, hs.1, rfl⟩

theorem map_id_children {p : Scope} (hp : p ∈ b.scopes.values) :
    (b.children p).map Scope.id = p.children := by
  rw [children, List.map_filterMap]
  refine (List.filterMap_congr fun id hid => ?_).trans List.filterMap_some
  obtain ⟨s, hs, hsid⟩ := h.scopes.mem_keys_iff.1 (h.scopes.mem_keys_of_child hp hid)
  rw [h.scopes.find?_eq_some_iff.2 ⟨hs, hsid⟩, Option.map_some, hsid]

theorem nodup_children_ids {p : Scope} (hp : p ∈ b.scopes.values) :
    ((b.children p).map Scope.id).Nodup := by
  have hnodup := (h.scopes.children.nodup_iff.2 h.scopes.nodup).of_cons
  have hmem : p.children ∈ b.scopes.values.map Scope.children := List.mem_map_of_mem hp
  rw [h.map_id_children hp]
  exact hnodup.sublist (List.sublist_flatten_of_mem hmem)

theorem nodup_values : b.scopes.values.Nodup :=
  .of_map Scope.id (h.scopes.toKeyed.map_id_values ▸ h.scopes.nodup)

theorem children_perm : (b.root :: b.scopes.values.flatMap b.children).Perm b.scopes.values := by
  have hperm := h.scopes.children.filterMap b.scopes.find?
  have hkeys : b.scopes.keys.filterMap b.scopes.find? = b.scopes.values := by
    calc b.scopes.keys.filterMap b.scopes.find?
        _ = (b.scopes.keys.map b.scopes.find?).filterMap id := by rw [List.filterMap_map]; rfl
        _ = (b.scopes.values.map some).filterMap id := by rw [Catalogue.map_find?_keys h.scopes.nodup]
        _ = b.scopes.values := by rw [List.filterMap_map]; exact List.filterMap_some
  rwa [hkeys, List.filterMap_cons_some (h.scopes.find?_eq_some_iff.2 ⟨h.root, rfl⟩),
    List.filterMap_flatMap] at hperm

theorem preorder_subperm (depth : Nat) : (b.treeTo depth b.root).preorder.Subperm b.scopes.values := by
  induction depth with
  | zero => exact List.singleton_subperm_iff.2 h.root
  | succ depth ih =>
    have hcons := (List.subperm_cons b.root).2 (subperm_flatMap b.children ih)
    exact ((b.preorder_treeTo_perm depth b.root).subperm.trans hcons).trans h.children_perm.subperm

theorem exists_mem_preorder {n : Nat} {id : ScopeId} (hreached : Reached b.scopes b.root.id n id) :
    ∀ depth, n ≤ depth → ∃ s ∈ (b.treeTo depth b.root).preorder, s.id = id := by
  induction hreached with
  | root => exact fun depth _ => ⟨b.root, b.mem_preorder_treeTo depth b.root, rfl⟩
  | child _ hchild ih =>
    intro depth hdepth
    obtain ⟨depth, rfl⟩ := Nat.exists_eq_add_one_of_ne_zero (Nat.ne_zero_of_lt hdepth)
    obtain ⟨s, hs, hid⟩ := ih depth (Nat.le_of_lt_succ hdepth)
    obtain ⟨p, hp, hmem⟩ := hchild
    obtain ⟨hpv, hpid⟩ := h.scopes.find?_eq_some_iff.1 hp
    obtain rfl := h.scopes.eq_of_id_eq ((h.preorder_subperm depth).subset hs) hpv (hid.trans hpid.symm)
    obtain ⟨c, hc, rfl⟩ := h.scopes.mem_keys_iff.1 (h.scopes.mem_keys_of_child hpv hmem)
    refine ⟨c, (b.preorder_treeTo_perm depth b.root).mem_iff.2 (List.mem_cons_of_mem _ ?_), rfl⟩
    exact List.mem_flatMap.2 ⟨s, hs, h.mem_children_iff.2 ⟨hc, hmem⟩⟩

/-- If every scope is reached in fewer steps than there are scopes, all of them are drawn. -/
theorem preorder_perm (hreached : ∀ id ∈ b.scopes.keys, ∃ n < b.size, Reached b.scopes b.root.id n id) :
    b.preorder.Perm b.scopes.values := by
  refine (h.preorder_subperm b.size).antisymm (h.nodup_values.subperm fun s hs => ?_)
  obtain ⟨n, hn, hid⟩ := hreached s.id (h.scopes.mem_keys_iff.2 ⟨s, hs, rfl⟩)
  obtain ⟨s', hs', he⟩ := h.exists_mem_preorder hid b.size (Nat.le_of_lt hn)
  rwa [← h.scopes.eq_of_id_eq ((h.preorder_subperm b.size).subset hs') hs he]

end Rooted

end Blueprint
end FeaturePlan
