import FeaturePlan.Proofs.Lists
import FeaturePlan.Proofs.Scope.Program
import FeaturePlan.Scope.Blueprint

/-!
The scopes of a registration. Whatever is registered, every scope but the root is a child of exactly one
scope; and if all scopes are asked for where their kinds usually stand, they stand there.
-/
namespace FeaturePlan

/-- The scopes are known by their identifiers, every one but the root is a child of one scope, and the root
alone is of its kind. -/
structure Rooted (root : ScopeId) (scopes : Catalogue ScopeId Scope) : Prop where
  keyed : ∀ entry ∈ scopes.entries, entry.2.id = entry.1
  nodup : scopes.keys.Nodup
  children : (root :: scopes.values.flatMap Scope.children).Perm scopes.keys
  rootKind : ∀ s ∈ scopes.values, s.kind = .root ↔ s.id = root

/-- Moreover, all scopes stand where their kinds usually stand. -/
structure Usual (root : ScopeId) (scopes : Catalogue ScopeId Scope) : Prop extends Rooted root scopes where
  kinds : ∀ p ∈ scopes.values, ∀ s ∈ scopes.values, s.id ∈ p.children → p.kind ∈ s.kind.usualParents

namespace Rooted

variable {root : ScopeId} {scopes : Catalogue ScopeId Scope}

theorem toKeyed (h : Rooted root scopes) : scopes.Keyed Scope.id := ⟨h.keyed, h.nodup⟩

theorem mem_keys_iff (h : Rooted root scopes) {id : ScopeId} :
    id ∈ scopes.keys ↔ ∃ s ∈ scopes.values, s.id = id :=
  h.toKeyed.mem_keys_iff

theorem find?_eq_some_iff (h : Rooted root scopes) {id : ScopeId} {s : Scope} :
    scopes.find? id = some s ↔ s ∈ scopes.values ∧ s.id = id :=
  h.toKeyed.find?_eq_some_iff

theorem eq_of_id_eq (h : Rooted root scopes) {s s' : Scope} (hs : s ∈ scopes.values)
    (hs' : s' ∈ scopes.values) (hid : s.id = s'.id) : s = s' :=
  h.toKeyed.eq_of_id_eq hs hs' hid

theorem mem_keys_of_child (h : Rooted root scopes) {p : Scope} (hp : p ∈ scopes.values) {id : ScopeId}
    (hid : id ∈ p.children) : id ∈ scopes.keys :=
  h.children.subset (List.mem_cons_of_mem _ (List.mem_flatMap.2 ⟨p, hp, hid⟩))

theorem mem_values_modify (h : Rooted root scopes) (owner : ScopeId) {f : Scope → Scope}
    (hid : ∀ s, (f s).id = s.id) (hkind : ∀ s, (f s).kind = s.kind)
    (hchildren : ∀ s, (f s).children = s.children) {s : Scope} (hs : s ∈ (scopes.modify owner f).values) :
    ∃ v ∈ scopes.values, s.id = v.id ∧ s.kind = v.kind ∧ s.children = v.children := by
  rw [h.toKeyed.values_modify] at hs
  obtain ⟨v, hv, rfl⟩ := List.mem_map.1 hs
  refine ⟨v, hv, ?_⟩
  split
  · exact ⟨hid v, hkind v, hchildren v⟩
  · exact ⟨rfl, rfl, rfl⟩

theorem modify (h : Rooted root scopes) (owner : ScopeId) {f : Scope → Scope}
    (hid : ∀ s, (f s).id = s.id) (hkind : ∀ s, (f s).kind = s.kind)
    (hchildren : ∀ s, (f s).children = s.children) : Rooted root (scopes.modify owner f) where
  keyed := (h.toKeyed.modify owner hid).key
  nodup := (h.toKeyed.modify owner hid).nodup
  children := by
    rw [Catalogue.flatMap_modify_of_eq hchildren, Catalogue.keys_modify]
    exact h.children
  rootKind s hs := by
    obtain ⟨v, hv, hvi, hvk, -⟩ := h.mem_values_modify owner hid hkind hchildren hs
    rw [hvk, hvi]
    exact h.rootKind v hv

theorem mem_values_insert (h : Rooted root scopes) {parent : Scope} (hp : parent ∈ scopes.values)
    {s x : Scope} (hx : x ∈ ((scopes.modify parent.id (·.addChild s.id)).add s.id s).values) :
    x = s ∨ ∃ v ∈ scopes.values, x.id = v.id ∧ x.kind = v.kind ∧
      (x.children = v.children ∨ v = parent ∧ x.children = v.children ++ [s.id]) := by
  rw [Catalogue.values_add, h.toKeyed.values_modify] at hx
  rcases List.mem_append.1 hx with hx | hx
  · obtain ⟨v, hv, rfl⟩ := List.mem_map.1 hx
    refine .inr ⟨v, hv, ?_⟩
    split
    · next he => exact ⟨rfl, rfl, .inr ⟨h.eq_of_id_eq hv hp he, rfl⟩⟩
    · exact ⟨rfl, rfl, .inl rfl⟩
  · exact .inl (List.mem_singleton.1 hx)

theorem insert (h : Rooted root scopes) {parent : Scope} (hp : parent ∈ scopes.values) {s : Scope}
    (hs : s.id ∉ scopes.keys) (hchildren : s.children = []) (hkind : s.kind ≠ .root) :
    Rooted root ((scopes.modify parent.id (·.addChild s.id)).add s.id s) := by
  have hmodified : (scopes.modify parent.id (·.addChild s.id)).Keyed Scope.id :=
    h.toKeyed.modify parent.id fun _ => rfl
  have hkeyed := hmodified.add s (by rwa [Catalogue.keys_modify])
  have hflat : ((scopes.modify parent.id (·.addChild s.id)).values.flatMap Scope.children).Perm
      (scopes.values.flatMap Scope.children ++ [s.id]) :=
    Catalogue.flatMap_modify_perm h.nodup (h.mem_keys_iff.2 ⟨parent, hp, rfl⟩) fun _ => rfl
  refine ⟨hkeyed.key, hkeyed.nodup, ?_, fun x hx => ?_⟩
  · rw [Catalogue.keys_add, Catalogue.keys_modify, Catalogue.values_add, List.flatMap_append,
      List.flatMap_singleton, hchildren, List.append_nil]
    exact (hflat.cons root).trans (h.children.append_right [s.id])
  · rcases h.mem_values_insert hp hx with rfl | ⟨v, hv, hvi, hvk, -⟩
    · refine iff_of_false hkind fun hroot => hs ?_
      rw [hroot]
      exact h.children.subset List.mem_cons_self
    · rw [hvk, hvi]
      exact h.rootKind v hv

end Rooted

namespace Usual

variable {root : ScopeId} {scopes : Catalogue ScopeId Scope}

theorem modify (h : Usual root scopes) (owner : ScopeId) {f : Scope → Scope}
    (hid : ∀ s, (f s).id = s.id) (hkind : ∀ s, (f s).kind = s.kind)
    (hchildren : ∀ s, (f s).children = s.children) : Usual root (scopes.modify owner f) := by
  refine ⟨h.toRooted.modify owner hid hkind hchildren, fun p hp s hs hc => ?_⟩
  obtain ⟨p', hp', -, hpk, hpc⟩ := h.mem_values_modify owner hid hkind hchildren hp
  obtain ⟨s', hs', hsi, hsk, -⟩ := h.mem_values_modify owner hid hkind hchildren hs
  rw [hpk, hsk]
  rw [hpc, hsi] at hc
  exact h.kinds p' hp' s' hs' hc

theorem insert (h : Usual root scopes) {parent : Scope} (hp : parent ∈ scopes.values) {s : Scope}
    (hs : s.id ∉ scopes.keys) (hchildren : s.children = []) (hkind : parent.kind ∈ s.kind.usualParents) :
    Usual root ((scopes.modify parent.id (·.addChild s.id)).add s.id s) := by
  have hfresh : ∀ v ∈ scopes.values, v.id ≠ s.id := fun v hv he => hs (h.mem_keys_iff.2 ⟨v, hv, he⟩)
  have hroot : s.kind ≠ .root := by
    intro hk
    rw [hk] at hkind
    cases hkind
  refine ⟨h.toRooted.insert hp hs hchildren hroot, fun p hp' x hx hc => ?_⟩
  rcases h.mem_values_insert hp hp' with rfl | ⟨p', hpv, -, hpk, hpc⟩
  · rw [hchildren] at hc
    cases hc
  rw [hpk]
  rcases h.mem_values_insert hp hx with rfl | ⟨x', hxv, hxi, hxk, -⟩
  · rcases hpc with hpc | ⟨rfl, -⟩
    · rw [hpc] at hc
      exact absurd (h.mem_keys_of_child hpv hc) hs
    · exact hkind
  · rw [hxk]
    have hc' : x'.id ∈ p'.children := by
      rcases hpc with hpc | ⟨-, hpc⟩
      · rwa [hpc, hxi] at hc
      · rw [hpc, hxi, List.mem_append, List.mem_singleton] at hc
        exact hc.resolve_right (hfresh x' hxv)
    exact h.kinds p' hpv x' hxv hc'

end Usual

namespace Registration

theorem mem_values_of_current? {r : Registration} (h : Rooted r.root r.scopes) {s : Scope}
    (hs : r.current? = some s) : s ∈ r.scopes.values := by
  obtain ⟨id, -, hfind⟩ := Option.bind_eq_some_iff.1 hs
  exact (h.find?_eq_some_iff.1 hfind).1

theorem usual_start (source : IdSource) : Usual (start source).root (start source).scopes where
  keyed entry he := by
    rw [List.mem_singleton.1 he]
  nodup := List.nodup_singleton _
  children := List.Perm.refl _
  kinds p hp s hs hc := by
    rw [List.mem_singleton.1 hp] at hc
    cases hc
  rootKind s hs := by
    rw [List.mem_singleton.1 hs]
    exact ⟨fun _ => rfl, fun _ => rfl⟩

/-- If every scope is asked for where its kind usually stands, no operation puts one elsewhere. -/
theorem kept_usual :
    Kept (fun q => q.allowedParents = some q.kind.usualParents) fun r => Usual r.root r.scopes where
  openScope r q hq h := by
    rcases r.openScope_cases q with ⟨e, supply, ho⟩ | ⟨parent, hcurrent, hfits, hid, ho⟩
    · rw [ho]
      exact h
    · rw [ho]
      have hkind : parent.kind ∈ q.kind.usualParents := by
        rw [ScopeRequest.fitsIn, hq] at hfits
        simpa using (Bool.and_eq_true_iff.1 hfits).2
      exact h.insert (mem_values_of_current? h.toRooted hcurrent) hid rfl hkind
  closeScope before r hbefore hpath h := h
  change r r' hchange h := by
    -- A change adds a definition to one scope at most.
    cases hchange with
    | none supply defaultMode parameters => exact h
    | step owner d hpath hid =>
      exact h.modify owner (f := (·.addStep d.id)) (fun _ => rfl) (fun _ => rfl) fun _ => rfl
    | hook owner d hpath hid =>
      exact h.modify owner (f := (·.addHook d.id)) (fun _ => rfl) (fun _ => rfl) fun _ => rfl

theorem finish_eq_ok {r : Registration} (h : Rooted r.root r.scopes) {b : Blueprint}
    (hb : r.finish = .ok b) : b.scopes = r.scopes ∧ b.root ∈ r.scopes.values ∧ b.root.id = r.root := by
  unfold finish at hb
  split at hb
  · next root hroot =>
    cases hb
    obtain ⟨hmem, hid⟩ := h.find?_eq_some_iff.1 hroot
    exact ⟨rfl, hmem, hid⟩
  · cases hb

end Registration

/-- A program that asks for every scope where its kind usually stands. -/
def Conventional (program : List Command) : Prop :=
  ∀ q ∈ Command.requestsAll program, q.allowedParents = some q.kind.usualParents

instance (program : List Command) : Decidable (Conventional program) :=
  inferInstanceAs (Decidable (∀ q ∈ Command.requestsAll program, _))

structure Blueprint.Usual (b : Blueprint) : Prop where
  scopes : FeaturePlan.Usual b.root.id b.scopes
  root : b.root ∈ b.scopes.values

theorem usual_of_conventional {program : List Command} (h : Conventional program) {source : IdSource}
    {b : Blueprint} (hb : (Command.runAll program (.start source)).2.finish = .ok b) : b.Usual := by
  have husual := Command.runAll_preserves Registration.kept_usual program h
    (Registration.usual_start source)
  obtain ⟨hscopes, hmem, hid⟩ := Registration.finish_eq_ok husual.toRooted hb
  rw [← hid, ← hscopes] at husual
  rw [← hscopes] at hmem
  exact ⟨husual, hmem⟩

end FeaturePlan
