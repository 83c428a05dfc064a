import FeaturePlan.Proofs.Scope.Lineage
import FeaturePlan.Scope.Walk

/-!
Walks through a blueprint whose scopes are children of one scope each. The stack makes a walk visit every
scope before what it contains, and all that before the scopes beside it. Since every scope is met in the
one that contains it, and in no other, the way back from it leads through the scopes that enclose it.
-/
namespace FeaturePlan

/-- The scopes, which stand side by side in the enclosing ones, with all that they contain: each before what
it contains, and that before the scopes beside it. With every scope come those that enclose it, the nearest
first. -/
inductive Blueprint.Unfolding (b : Blueprint) : List Scope → List Scope → List (Scope × List Scope) → Prop
  | nil {enclosing : List Scope} : Unfolding b enclosing [] []
  | cons {enclosing : List Scope} {s : Scope} {beside : List Scope} {below others : List (Scope × List Scope)}
      (hbelow : Unfolding b (s :: enclosing) (b.children s) below)
      (hothers : Unfolding b enclosing beside others) :
      Unfolding b enclosing (s :: beside) ((s, enclosing) :: (below ++ others))

namespace Walk

variable {b : Blueprint} {w : Walk}

theorem meet_all (parent : Scope) (ss : List Scope) (w : Walk) :
    (ss.reverse.foldl (meet parent) w).pending = ss ++ w.pending ∧
      (ss.reverse.foldl (meet parent) w).visited = w.visited ∧
      ∀ id, (ss.reverse.foldl (meet parent) w).parents.find? id =
        if id ∈ ss.map Scope.id then some parent else w.parents.find? id := by
  rw [List.foldl_reverse]
  induction ss with
  | nil => exact ⟨rfl, rfl, fun id => (if_neg List.not_mem_nil).symm⟩
  | cons s ss ih =>
    obtain ⟨hpending, hvisited, hparents⟩ := ih
    refine ⟨congrArg (s :: ·) hpending, hvisited, fun id => ?_⟩
    rw [List.foldr_cons, meet, Catalogue.find?_put, hparents]
    by_cases hid : id = s.id
    · simp [hid]
    · simp [hid]

@[simp] theorem pending_visit (b : Blueprint) (w : Walk) (s : Scope) :
    (visit b w s).pending = b.children s ++ w.pending := (meet_all s _ _).1

@[simp] theorem visited_visit (b : Blueprint) (w : Walk) (s : Scope) :
    (visit b w s).visited = w.visited ++ [s] := (meet_all s _ _).2.1

theorem find?_parents_visit (b : Blueprint) (w : Walk) (s : Scope) (id : ScopeId) :
    (visit b w s).parents.find? id =
      if id ∈ (b.children s).map Scope.id then some s else w.parents.find? id := (meet_all s _ _).2.2 id

theorem run_of_nil (hpending : w.pending = []) (n : Nat) : run b n w = w := by
  cases n with
  | zero => rfl
  | succ n => rw [run, hpending]

theorem run_of_cons {s : Scope} {pending : List Scope} (hpending : w.pending = s :: pending) (n : Nat) :
    run b (n + 1) w = run b n (visit b { w with pending } s) := by
  rw [run, hpending]

/-- A walk comes through what lies on top of the stack, and leaves what lies below. -/
theorem exists_run_of_unfolding {enclosing ss : List Scope} {places : List (Scope × List Scope)}
    (h : b.Unfolding enclosing ss places) {rest : List Scope} (hpending : w.pending = ss ++ rest) (n : Nat) :
    ∃ w', run b (places.length + n) w = run b n w' ∧ w'.pending = rest ∧
      w'.visited = w.visited ++ places.map Prod.fst := by
  induction h generalizing w rest n with
  | nil => exact ⟨w, by rw [List.length_nil, Nat.zero_add], hpending, (List.append_nil _).symm⟩
  | @cons enclosing s beside below others _ _ ihbelow ihothers =>
    rw [List.cons_append] at hpending
    have hvisit : (visit b { w with pending := beside ++ rest } s).pending =
        b.children s ++ (beside ++ rest) := pending_visit _ _ _
    obtain ⟨w₁, hrun₁, hpending₁, hvisited₁⟩ := ihbelow hvisit (others.length + n)
    obtain ⟨w₂, hrun₂, hpending₂, hvisited₂⟩ := ihothers hpending₁ n
    refine ⟨w₂, ?_, hpending₂, ?_⟩
    · have hlength : ((s, enclosing) :: (below ++ others)).length + n =
          below.length + (others.length + n) + 1 := by
        rw [List.length_cons, List.length_append]
        omega
      rw [hlength, run_of_cons hpending, hrun₁, hrun₂]
    · rw [hvisited₂, hvisited₁, visited_visit]
      simp

/-- Scopes are met in the scope that contains them, and all are that a visited scope contains. -/
structure Noted (b : Blueprint) (w : Walk) : Prop where
  pending : w.pending ⊆ b.scopes.values
  sound : ∀ id p, w.parents.find? id = some p → p ∈ b.scopes.values ∧ id ∈ p.children
  complete : ∀ p ∈ w.visited, ∀ s ∈ b.children p, w.parents.find? s.id ≠ none

theorem Noted.visit (h : b.Rooted) (hw : w.Noted b) {s : Scope} {pending : List Scope}
    (hpending : w.pending = s :: pending) : (visit b { w with pending } s).Noted b := by
  obtain ⟨hs, hrest⟩ := List.cons_subset.1 (hpending ▸ hw.pending)
  constructor
  case pending =>
    rw [pending_visit]
    exact List.append_subset.2 ⟨fun c hc => (h.mem_children_iff.1 hc).1, hrest⟩
  case sound =>
    intro id p hp
    rw [find?_parents_visit, h.map_id_children hs] at hp
    split at hp
    · next hid =>
      cases hp
      exact ⟨hs, hid⟩
    · exact hw.sound id p hp
  case complete =>
    intro p hp c hc
    rw [find?_parents_visit]
    rw [visited_visit, List.mem_append, List.mem_singleton] at hp
    split
    · exact Option.some_ne_none s
    · next hid =>
      rcases hp with hp | rfl
      · exact hw.complete p hp c hc
      · exact absurd (List.mem_map_of_mem hc) hid

theorem Noted.run (h : b.Rooted) (hw : w.Noted b) (n : Nat) : (run b n w).Noted b := by
  induction n generalizing w with
  | zero => exact hw
  | succ n ih =>
    cases hpending : w.pending with
    | nil => rwa [run_of_nil hpending]
    | cons s pending =>
      rw [run_of_cons hpending]
      exact ih (hw.visit h hpending)

/-- The way back leads through the scopes that enclose a scope, once all of them are visited. -/
theorem Noted.above_eq (h : b.Rooted) (hw : w.Noted b) {s : Scope} {enclosing : List Scope}
    (hlineage : b.Lineage s (s :: enclosing)) (hvisited : enclosing ⊆ w.visited) {n : Nat}
    (hn : enclosing.length ≤ n) : w.above n s = enclosing := by
  induction enclosing generalizing s n with
  | nil =>
    obtain rfl : s = b.root := Option.some.inj hlineage.root
    cases n with
    | zero => rfl
    | succ n =>
      -- Nothing contains the root, so it was met nowhere.
      have hnone : w.parents.find? b.root.id = none := by
        refine Option.eq_none_iff_forall_ne_some.2 fun p hp => ?_
        obtain ⟨hmem, hid⟩ := hw.sound _ _ hp
        exact h.root_not_mem_children p hmem (h.mem_children_iff.2 ⟨h.root, hid⟩)
      rw [above, hnone]
  | cons outer others ih =>
    obtain ⟨n, rfl⟩ := Nat.exists_eq_add_one_of_ne_zero (Nat.ne_zero_of_lt hn)
    obtain ⟨hs, houter⟩ := hlineage.tail
    obtain ⟨hmem, hrest⟩ := List.cons_subset.1 hvisited
    obtain ⟨p, hp⟩ := Option.ne_none_iff_exists'.1 (hw.complete outer hmem s hs)
    have hparent : p = outer := by
      obtain ⟨hpmem, hid⟩ := hw.sound _ _ hp
      have hsp : s ∈ b.children p := h.mem_children_iff.2 ⟨hlineage.mem_values h, hid⟩
      exact h.parent_unique hpmem (houter.mem_values h) hsp hs
    rw [above, hp, hparent]
    exact congrArg (outer :: ·) (ih houter hrest (Nat.le_of_succ_le_succ hn))

end Walk

namespace Blueprint

variable {b : Blueprint}

theorem Unfolding.append {enclosing ss ss' : List Scope} {places places' : List (Scope × List Scope)}
    (h : b.Unfolding enclosing ss places) (h' : b.Unfolding enclosing ss' places') :
    b.Unfolding enclosing (ss ++ ss') (places ++ places') := by
  induction h with
  | nil => exact h'
  | cons hbelow _ _ ihothers =>
    rw [List.cons_append, List.cons_append, List.append_assoc]
    exact .cons hbelow (ihothers h')

theorem Unfolding.flatMap {enclosing ss : List Scope} {places : Scope → List (Scope × List Scope)}
    (h : ∀ s ∈ ss, b.Unfolding enclosing [s] (places s)) :
    b.Unfolding enclosing ss (ss.flatMap places) := by
  induction ss with
  | nil => exact .nil
  | cons s ss ih =>
    obtain ⟨hs, hss⟩ := List.forall_mem_cons.1 h
    exact hs.append (ih hss)

theorem Unfolding.mem_of_enclosing {enclosing ss : List Scope} {places : List (Scope × List Scope)}
    (h : b.Unfolding enclosing ss places) {place : Scope × List Scope} (hplace : place ∈ places) :
    place.2 ⊆ enclosing ++ places.map Prod.fst := by
  induction h with
  | nil => cases hplace
  | @cons enclosing s beside below others _ _ ihbelow ihothers =>
    intro x hx
    rw [List.mem_cons, List.mem_append] at hplace
    rcases hplace with rfl | hplace | hplace
    · exact List.mem_append_left _ hx
    · have hmem := ihbelow hplace hx
      simp only [List.cons_append, List.map_cons, List.map_append, List.mem_append, List.mem_cons] at hmem ⊢
      tauto
    · have hmem := ihothers hplace hx
      simp only [List.map_cons, List.map_append, List.mem_append, List.mem_cons] at hmem ⊢
      tauto

namespace Rooted

variable (h : b.Rooted)
include h

/-- A tree is drawn down to the scopes that contain nothing, if its depth and the scopes above it make up
for all scopes. -/
theorem unfolding_treeTo {depth : Nat} {s : Scope} {enclosing : List Scope}
    (hlineage : b.Lineage s (s :: enclosing)) (hdepth : b.size ≤ depth + (enclosing.length + 1)) :
    b.Unfolding enclosing [s] ((b.treeTo depth s).places enclosing) := by
  induction depth generalizing s enclosing with
  | zero =>
    have hnone : b.children s = [] := by
      refine List.eq_nil_iff_forall_not_mem.2 fun c hc => ?_
      have hlength := (hlineage.child hc).length_le_size h
      rw [List.length_cons, List.length_cons] at hlength
      omega
    have hbelow : b.Unfolding (s :: enclosing) (b.children s) [] := by
      rw [hnone]
      exact .nil
    exact .cons hbelow .nil
  | succ depth ih =>
    have hbelow : b.Unfolding (s :: enclosing) (b.children s)
        ((b.children s).flatMap fun c => (b.treeTo depth c).places (s :: enclosing)) := by
      refine .flatMap fun c hc => ih (hlineage.child hc) ?_
      rw [List.length_cons]
      omega
    rw [places_treeTo_succ, ← List.append_nil (List.flatMap _ _)]
    exact .cons hbelow .nil

theorem unfolding_tree : b.Unfolding [] [b.root] (b.tree.places []) :=
  h.unfolding_treeTo b.lineage_root (Nat.le_add_right _ _)

theorem length_places_le : (b.tree.places []).length ≤ b.size := by
  have hlength := (h.preorder_subperm b.size).length_le
  rwa [← map_fst_places b b.size b.root [], List.length_map, Catalogue.values, List.length_map] at hlength

/-- Every walk that is long enough ends, and visits the scopes of the tree in order. -/
theorem run_walkStart {n : Nat} (hn : b.size ≤ n) :
    (Walk.run b n b.walkStart).pending = [] ∧
      (Walk.run b n b.walkStart).visited = (b.tree.places []).map Prod.fst := by
  obtain ⟨k, rfl⟩ := Nat.exists_eq_add_of_le (h.length_places_le.trans hn)
  have hstart : b.walkStart.pending = [b.root] ++ [] := rfl
  obtain ⟨w, hrun, hpending, hvisited⟩ := Walk.exists_run_of_unfolding h.unfolding_tree hstart k
  rw [hrun, Walk.run_of_nil hpending]
  exact ⟨hpending, hvisited⟩

theorem noted_walkStart : b.walkStart.Noted b where
  pending := List.cons_subset.2 ⟨h.root, List.nil_subset _⟩
  sound _ _ hp := nomatch hp
  complete _ hp := absurd hp List.not_mem_nil

theorem above_run {n m : Nat} (hn : b.size ≤ n) (hm : b.size ≤ m) {place : Scope × List Scope}
    (hplace : place ∈ b.tree.places []) : (Walk.run b n b.walkStart).above m place.1 = place.2 := by
  have hlineage := lineage_of_mem_places b.lineage_root hplace
  have hlength := hlineage.length_le_size h
  rw [List.length_cons] at hlength
  refine (h.noted_walkStart.run h n).above_eq h hlineage ?_ (by omega)
  rw [(h.run_walkStart hn).2]
  exact h.unfolding_tree.mem_of_enclosing hplace

end Rooted

end Blueprint
end FeaturePlan
