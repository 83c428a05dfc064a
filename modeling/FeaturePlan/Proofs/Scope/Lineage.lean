import FeaturePlan.Proofs.Scope.WellFormed
import FeaturePlan.Proofs.Step.Lookup

/-!
The scopes that enclose a scope, up to the root. There is one way up from every scope, and it comes to no
scope twice. The definition that a step has on it is that of the nearest scope, and in a scope the one that
was registered first.
-/
namespace FeaturePlan
namespace Blueprint

/-- A scope and the scopes that enclose it, the nearest first and the root last. -/
structure Lineage (b : Blueprint) (s : Scope) (chain : List Scope) : Prop where
  head : chain.head? = some s
  nested : chain.IsChain fun inner outer => inner ∈ b.children outer
  root : chain.getLast? = some b.root

theorem lineage_root (b : Blueprint) : b.Lineage b.root [b.root] := ⟨rfl, .singleton _, rfl⟩

def Attached (b : Blueprint) (s : Scope) (d : StepDefinition) : Prop :=
  d.id ∈ s.steps ∧ b.steps.find? d.id = some d

/-- What a program leaves behind, as far as steps are looked up in it. -/
structure Grounded (b : Blueprint) : Prop extends Rooted b where
  steps : Attachments b.scopes Scope.steps b.steps StepDefinition.id

theorem grounded_of_program {source : IdSource} {program : List Command} {b : Blueprint}
    (hb : (Command.runAll program (.start source)).2.finish = .ok b) : b.Grounded := by
  have h := Command.invariant_of_mem_points (Command.runAll_mem_points program (.start source))
  have hrooted := rooted_of_finish h.scopes hb
  unfold Registration.finish at hb
  split at hb
  · cases hb
    exact ⟨hrooted, h.steps⟩
  · cases hb

def ofProgram (program : List Command) : Blueprint :=
  let r := (Command.runAll program (.start .sequential)).2
  let root := (r.scopes.find? r.root).getD ⟨r.root, .root, "", .standard, {}, [], [], []⟩
  ⟨root, r.scopes, r.steps, r.hooks, r.parameters⟩

theorem finish_ofProgram (program : List Command) :
    (Command.runAll program (.start .sequential)).2.finish = .ok (ofProgram program) := by
  have h := Command.invariant_of_mem_points (Command.runAll_mem_points program (.start .sequential))
  obtain ⟨root, hroot⟩ := Option.isSome_iff_exists.1 (Catalogue.contains_eq_true_iff.2 h.root_mem)
  simp only [Registration.finish, ofProgram, hroot, Option.getD_some]

section Lineages

variable {b : Blueprint} (h : b.Rooted)
include h

theorem Rooted.root_not_mem_children (p : Scope) (hp : p ∈ b.scopes.values) : b.root ∉ b.children p := by
  intro hroot
  have hnodup := h.scopes.children.nodup_iff.2 h.scopes.nodup
  exact (List.nodup_cons.1 hnodup).1 (List.mem_flatMap.2 ⟨p, hp, (h.mem_children_iff.1 hroot).2⟩)

theorem Rooted.parent_unique {s p p' : Scope} (hp : p ∈ b.scopes.values) (hp' : p' ∈ b.scopes.values)
    (hs : s ∈ b.children p) (hs' : s ∈ b.children p') : p = p' :=
  eq_of_mem_flatMap (h.scopes.children.nodup_iff.2 h.scopes.nodup).of_cons hp hp'
    (h.mem_children_iff.1 hs).2 (h.mem_children_iff.1 hs').2

theorem Lineage.mem_values {s : Scope} {chain : List Scope} (hchain : b.Lineage s chain) :
    s ∈ b.scopes.values := by
  obtain ⟨hhead, hnested, hroot⟩ := hchain
  obtain ⟨others, rfl⟩ := List.head?_eq_some_iff.1 hhead
  cases others with
  | nil =>
    rw [List.getLast?_singleton, Option.some.injEq] at hroot
    rw [hroot]
    exact h.root
  | cons outer others => exact (h.mem_children_iff.1 (List.isChain_cons_cons.1 hnested).1).1

omit h in
theorem Lineage.tail {s outer : Scope} {others : List Scope} (hchain : b.Lineage s (s :: outer :: others)) :
    s ∈ b.children outer ∧ b.Lineage outer (outer :: others) := by
  obtain ⟨-, hnested, hroot⟩ := hchain
  rw [List.isChain_cons_cons] at hnested
  rw [List.getLast?_cons_cons] at hroot
  exact ⟨hnested.1, rfl, hnested.2, hroot⟩

omit h in
theorem Lineage.drop {s x : Scope} {nearer farther : List Scope}
    (hchain : b.Lineage s (nearer ++ x :: farther)) : b.Lineage x (x :: farther) where
  head := rfl
  nested := hchain.nested.right_of_append
  root := by
    have hroot := hchain.root
    rwa [List.getLast?_append_of_ne_nil _ (List.cons_ne_nil x farther)] at hroot

omit h in
theorem Lineage.child {s inner : Scope} {enclosing : List Scope} (hchain : b.Lineage s (s :: enclosing))
    (hinner : inner ∈ b.children s) : b.Lineage inner (inner :: s :: enclosing) where
  head := rfl
  nested := List.isChain_cons_cons.2 ⟨hinner, hchain.nested⟩
  root := by
    rw [List.getLast?_cons_cons]
    exact hchain.root

theorem lineage_unique {s : Scope} {chain chain' : List Scope} (hchain : b.Lineage s chain)
    (hchain' : b.Lineage s chain') : chain = chain' := by
  induction chain generalizing s chain' with
  | nil => cases hchain.head
  | cons x others ih =>
    obtain rfl : x = s := Option.some.inj hchain.head
    obtain ⟨others', rfl⟩ := List.head?_eq_some_iff.1 hchain'.head
    cases others with
    | nil =>
      cases others' with
      | nil => rfl
      | cons outer' others' =>
        obtain rfl : x = b.root := Option.some.inj hchain.root
        exact absurd hchain'.tail.1 (h.root_not_mem_children outer' (hchain'.tail.2.mem_values h))
    | cons outer others =>
      cases others' with
      | nil =>
        obtain rfl : x = b.root := Option.some.inj hchain'.root
        exact absurd hchain.tail.1 (h.root_not_mem_children outer (hchain.tail.2.mem_values h))
      | cons outer' others' =>
        obtain ⟨hs, houter⟩ := hchain.tail
        obtain ⟨hs', houter'⟩ := hchain'.tail
        obtain rfl := h.parent_unique (houter.mem_values h) (houter'.mem_values h) hs hs'
        rw [ih houter houter']

theorem Lineage.nodup {s : Scope} {chain : List Scope} (hchain : b.Lineage s chain) : chain.Nodup := by
  induction chain generalizing s with
  | nil => exact .nil
  | cons x others ih =>
    obtain rfl : x = s := Option.some.inj hchain.head
    cases others with
    | nil => exact List.nodup_singleton x
    | cons outer others =>
      refine List.nodup_cons.2 ⟨fun hmem => ?_, ih hchain.tail.2⟩
      obtain ⟨nearer, farther, hsplit⟩ := List.append_of_mem hmem
      have hagain : b.Lineage x (x :: farther) := by
        rw [hsplit, ← List.cons_append] at hchain
        exact hchain.drop
      have hlength := congrArg List.length (lineage_unique h hchain hagain)
      rw [hsplit, List.length_cons, List.length_append, List.length_cons] at hlength
      omega

theorem Lineage.subset_values {s : Scope} {chain : List Scope} (hchain : b.Lineage s chain) :
    chain ⊆ b.scopes.values := by
  intro x hx
  obtain ⟨nearer, farther, rfl⟩ := List.append_of_mem hx
  exact hchain.drop.mem_values h

theorem Lineage.length_le_size {s : Scope} {chain : List Scope} (hchain : b.Lineage s chain) :
    chain.length ≤ b.size := by
  have hlength := ((hchain.nodup h).subperm (hchain.subset_values h)).length_le
  rwa [Catalogue.values, List.length_map] at hlength

end Lineages

variable {b : Blueprint}

theorem lineage_of_mem_places {depth : Nat} {s : Scope} {enclosing : List Scope}
    (h : b.Lineage s (s :: enclosing)) {place : Scope × List Scope}
    (hplace : place ∈ (b.treeTo depth s).places enclosing) : b.Lineage place.1 (place.1 :: place.2) := by
  induction depth generalizing s enclosing with
  | zero =>
    rw [List.mem_singleton.1 hplace]
    exact h
  | succ depth ih =>
    rw [places_treeTo_succ, List.mem_cons, List.mem_flatMap] at hplace
    rcases hplace with rfl | ⟨c, hc, hplace⟩
    · exact h
    · exact ih (h.child hc) hplace

/-- The definition that a step has on a way up: it defines the step, and none does that is attached to a
nearer scope, or to the same scope and was registered earlier. -/
structure Nearest (b : Blueprint) (chain : List Scope) (step : Gherkin.Step) (d : StepDefinition) : Prop where
  defines : d.Defines b.parameters step
  attached : ∃ nearer s farther, chain = nearer ++ s :: farther ∧ b.Attached s d ∧
    (∀ s' ∈ nearer, ∀ d', b.Attached s' d' → ¬ d'.Defines b.parameters step) ∧
    ∀ d', b.Attached s d' → b.steps.keys.idxOf d'.id < b.steps.keys.idxOf d.id →
      ¬ d'.Defines b.parameters step

namespace Grounded

variable (h : b.Grounded)
include h

theorem mem_stepsOf_iff {s : Scope} {d : StepDefinition} : d ∈ b.stepsOf s ↔ b.Attached s d := by
  rw [stepsOf, List.mem_filterMap, Attached]
  constructor
  · rintro ⟨id, hid, hd⟩
    obtain rfl := (h.steps.keyed.find?_eq_some_iff.1 hd).2
    exact ⟨hid, hd⟩
  · exact fun ⟨hid, hd⟩ => ⟨d.id, hid, hd⟩

theorem map_id_stepsOf {s : Scope} (hs : s ∈ b.scopes.values) :
    (b.stepsOf s).map StepDefinition.id = s.steps := by
  rw [stepsOf, List.map_filterMap]
  refine (List.filterMap_congr fun id hid => ?_).trans List.filterMap_some
  have hkey := (h.steps.inOrder s hs).subset hid
  obtain ⟨d, hd, rfl⟩ := h.steps.keyed.mem_keys_iff.1 hkey
  rw [h.steps.keyed.find?_eq_some_iff.2 ⟨hd, rfl⟩, Option.map_some]

theorem pairwise_stepsOf {s : Scope} (hs : s ∈ b.scopes.values) :
    (b.stepsOf s).Pairwise fun d d' => b.steps.keys.idxOf d.id < b.steps.keys.idxOf d'.id := by
  have hids := (pairwise_idxOf_lt h.steps.keyed.nodup).sublist (h.steps.inOrder s hs)
  rwa [← h.map_id_stepsOf hs, List.pairwise_map] at hids

theorem nearest_of_first {s : Scope} {chain : List Scope} (hchain : b.Lineage s chain) {step : Gherkin.Step}
    {d : StepDefinition} {before after : List StepDefinition}
    (hsplit : chain.flatMap b.stepsOf = before ++ d :: after) (hd : d.Defines b.parameters step)
    (hbefore : ∀ d' ∈ before, ¬ d'.Defines b.parameters step) : b.Nearest chain step d := by
  obtain ⟨nearer, owner, farther, left, right, rfl, howner, rfl⟩ := exists_of_flatMap_eq hsplit
  refine ⟨hd, nearer, owner, farther, rfl, ?_, fun s' hs' d' hd' => ?_, fun d' hd' hlt => ?_⟩
  · exact h.mem_stepsOf_iff.1 (howner ▸ List.mem_append_right _ List.mem_cons_self)
  · refine hbefore d' (List.mem_append_left _ (List.mem_flatMap.2 ⟨s', hs', ?_⟩))
    exact h.mem_stepsOf_iff.2 hd'
  · have hmem := h.mem_stepsOf_iff.2 hd'
    have hpairwise := h.pairwise_stepsOf (hchain.drop.mem_values h.toRooted)
    rw [howner] at hmem hpairwise
    rw [List.pairwise_append, List.pairwise_cons] at hpairwise
    rcases List.mem_append.1 hmem with hmem | hmem
    · exact hbefore d' (List.mem_append_right _ hmem)
    · -- What is not before the definition was not registered before it.
      rcases List.mem_cons.1 hmem with rfl | hmem
      · exact absurd hlt (Nat.lt_irrefl _)
      · exact absurd hlt (Nat.lt_asymm (hpairwise.2.1.1 d' hmem))

end Grounded

end Blueprint
end FeaturePlan
