import FeaturePlan.Proofs.Scope.Tree
import Mathlib.Data.List.Chain

/-!
Registrations are well formed wherever a program gets to: the open scopes lead from one to the next down to
the root, and everything registered is attached to exactly one scope that is reached from the root. No
identifier that is drawn and no failure changes this, since an operation that is refused adds nothing and
an operation that is not adds something under an identifier that was free.
-/
namespace FeaturePlan

section Growth

variable {scopes scopes' : Catalogue ScopeId Scope}

/-- No scope is lost, and none loses a child. -/
def Grows (scopes scopes' : Catalogue ScopeId Scope) : Prop :=
  ∀ id s, scopes.find? id = some s → ∃ s', scopes'.find? id = some s' ∧ s.children ⊆ s'.children

theorem grows_modify (scopes : Catalogue ScopeId Scope) (owner : ScopeId) {f : Scope → Scope}
    (hf : ∀ s, s.children ⊆ (f s).children) : Grows scopes (scopes.modify owner f) := by
  intro id s hs
  rw [Catalogue.find?_modify, hs]
  split
  · exact ⟨f s, rfl, hf s⟩
  · exact ⟨s, rfl, List.Subset.refl _⟩

theorem grows_add (scopes : Catalogue ScopeId Scope) (id : ScopeId) (s : Scope) :
    Grows scopes (scopes.add id s) :=
  fun _ s' hs => ⟨s', by rw [Catalogue.find?_add, hs, Option.some_or], List.Subset.refl _⟩

theorem Grows.trans {scopes'' : Catalogue ScopeId Scope} (h : Grows scopes scopes')
    (h' : Grows scopes' scopes'') : Grows scopes scopes'' := by
  intro id s hs
  obtain ⟨s', hs', hsub⟩ := h id s hs
  obtain ⟨s'', hs'', hsub'⟩ := h' id s' hs'
  exact ⟨s'', hs'', List.Subset.trans hsub hsub'⟩

theorem grows_insert (scopes : Catalogue ScopeId Scope) (parent : ScopeId) (s : Scope) :
    Grows scopes ((scopes.modify parent (·.addChild s.id)).add s.id s) :=
  (grows_modify scopes parent fun _ => List.subset_append_left _ _).trans (grows_add _ _ _)

theorem IsChild.mono (h : Grows scopes scopes') {parent child : ScopeId}
    (hchild : IsChild scopes parent child) : IsChild scopes' parent child := by
  obtain ⟨p, hp, hmem⟩ := hchild
  obtain ⟨p', hp', hsub⟩ := h parent p hp
  exact ⟨p', hp', hsub hmem⟩

theorem Reached.mono (h : Grows scopes scopes') {root id : ScopeId} {n : Nat}
    (hreached : Reached scopes root n id) : Reached scopes' root n id := by
  induction hreached with
  | root => exact .root
  | child _ hchild ih => exact .child ih (hchild.mono h)

theorem isChild_insert {parent : Scope} (hparent : scopes.find? parent.id = some parent) (s : Scope) :
    IsChild ((scopes.modify parent.id (·.addChild s.id)).add s.id s) parent.id s.id := by
  refine ⟨parent.addChild s.id, ?_, by simp [Scope.addChild]⟩
  rw [Catalogue.find?_add, Catalogue.find?_modify, hparent, if_pos rfl, Option.map_some, Option.some_or]

end Growth

/-- All definitions are attached to scopes, each once, and to every scope in the order in which they were
registered. -/
structure Attachments {κ α : Type} (scopes : Catalogue ScopeId Scope) (list : Scope → List κ)
    (definitions : Catalogue κ α) (id : α → κ) : Prop where
  keyed : definitions.Keyed id
  once : (scopes.values.flatMap list).Perm definitions.keys
  inOrder : ∀ s ∈ scopes.values, (list s).Sublist definitions.keys

namespace Attachments

variable {κ α : Type} {scopes : Catalogue ScopeId Scope} {list : Scope → List κ}
  {definitions : Catalogue κ α} {id : α → κ}

theorem empty (h : ∀ s ∈ scopes.values, list s = []) : Attachments scopes list {} id where
  keyed := ⟨fun _ he => absurd he List.not_mem_nil, .nil⟩
  once := by rw [List.flatMap_eq_nil_iff.2 h]; exact .nil
  inOrder s hs := by
    rw [h s hs]
    exact List.nil_sublist _

theorem modify (h : Attachments scopes list definitions id) (owner : ScopeId) (f : Scope → Scope)
    (hlist : ∀ s, list (f s) = list s) : Attachments (scopes.modify owner f) list definitions id where
  keyed := h.keyed
  once := by rw [Catalogue.flatMap_modify_of_eq hlist]; exact h.once
  inOrder s hs := by
    obtain ⟨v, hv, rfl | rfl⟩ := Catalogue.mem_values_modify hs
    · exact h.inOrder s hv
    · rw [hlist]
      exact h.inOrder v hv

theorem addScope (h : Attachments scopes list definitions id) (s : Scope) (hs : list s = []) :
    Attachments (scopes.add s.id s) list definitions id where
  keyed := h.keyed
  once := by
    rw [Catalogue.values_add, List.flatMap_append, List.flatMap_singleton, hs, List.append_nil]
    exact h.once
  inOrder s' hs' := by
    rw [Catalogue.values_add, List.mem_append, List.mem_singleton] at hs'
    rcases hs' with hs' | rfl
    · exact h.inOrder s' hs'
    · rw [hs]
      exact List.nil_sublist _

theorem attach (h : Attachments scopes list definitions id) (hkeys : scopes.keys.Nodup) {owner : ScopeId}
    (howner : owner ∈ scopes.keys) (f : Scope → Scope) (d : α) (hid : id d ∉ definitions.keys)
    (hlist : ∀ s, list (f s) = list s ++ [id d]) :
    Attachments (scopes.modify owner f) list (definitions.add (id d) d) id where
  keyed := h.keyed.add d hid
  once := by
    rw [Catalogue.keys_add]
    exact (Catalogue.flatMap_modify_perm hkeys howner hlist).trans (h.once.append_right _)
  inOrder s hs := by
    rw [Catalogue.keys_add]
    obtain ⟨v, hv, rfl | rfl⟩ := Catalogue.mem_values_modify hs
    · exact (h.inOrder s hv).trans (List.sublist_append_left _ _)
    · rw [hlist]
      exact (h.inOrder v hv).append (List.Sublist.refl _)

end Attachments

namespace Registration

/-- What every operation keeps. That scopes are reached in few steps makes the tree as deep as needed. -/
structure Invariant (r : Registration) : Prop where
  scopes : Rooted r.root r.scopes
  steps : Attachments r.scopes Scope.steps r.steps StepDefinition.id
  hooks : Attachments r.scopes Scope.hooks r.hooks HookDefinition.id
  bottom : r.path.getLast? = some r.root
  nested : r.path.IsChain fun inner outer => IsChild r.scopes outer inner
  reached : ∀ id ∈ r.scopes.keys, ∃ n < r.scopes.size, Reached r.scopes r.root n id

namespace Invariant

variable {r : Registration} (h : r.Invariant)
include h

theorem path_ne_nil : r.path ≠ [] := by
  intro hpath
  have hbottom := h.bottom
  rw [hpath] at hbottom
  cases hbottom

theorem root_mem : r.root ∈ r.scopes.keys := h.scopes.children.subset List.mem_cons_self

theorem mem_keys_of_isChild {parent child : ScopeId} (hchild : IsChild r.scopes parent child) :
    child ∈ r.scopes.keys := by
  obtain ⟨p, hp, hmem⟩ := hchild
  exact h.scopes.mem_keys_of_child (h.scopes.find?_eq_some_iff.1 hp).1 hmem

theorem head_mem {owner : ScopeId} {others : List ScopeId} (hpath : r.path = owner :: others) :
    owner ∈ r.scopes.keys := by
  cases others with
  | nil =>
    have hbottom := h.bottom
    rw [hpath, List.getLast?_singleton, Option.some.injEq] at hbottom
    rw [hbottom]
    exact h.root_mem
  | cons outer others =>
    have hnested := h.nested
    rw [hpath, List.isChain_cons_cons] at hnested
    exact h.mem_keys_of_isChild hnested.1

theorem exists_current : ∃ owner others s, r.path = owner :: others ∧ r.scopes.find? owner = some s ∧
    s.id = owner ∧ r.current? = some s := by
  obtain ⟨owner, others, hpath⟩ := List.exists_cons_of_ne_nil h.path_ne_nil
  obtain ⟨s, hs, rfl⟩ := h.scopes.mem_keys_iff.1 (h.head_mem hpath)
  have hfind := h.scopes.find?_eq_some_iff.2 ⟨hs, rfl⟩
  exact ⟨s.id, others, s, hpath, hfind, rfl, by rw [current?, hpath, List.head?_cons, Option.bind_some, hfind]⟩

theorem frame (supply : IdSupply) (defaultMode : Mode) (parameters : Parameters) :
    Invariant { r with supply, defaultMode, parameters } :=
  ⟨h.scopes, h.steps, h.hooks, h.bottom, h.nested, h.reached⟩

theorem reached_modify (owner : ScopeId) (f : Scope → Scope) (hf : ∀ s, (f s).children = s.children) :
    (r.path.IsChain fun inner outer => IsChild (r.scopes.modify owner f) outer inner) ∧
      ∀ id ∈ (r.scopes.modify owner f).keys,
        ∃ n < (r.scopes.modify owner f).size, Reached (r.scopes.modify owner f) r.root n id := by
  have hgrows : Grows r.scopes (r.scopes.modify owner f) :=
    grows_modify _ _ fun s => by rw [hf]; exact List.Subset.refl _
  refine ⟨h.nested.imp fun _ _ hc => hc.mono hgrows, fun id hid => ?_⟩
  rw [Catalogue.keys_modify] at hid
  obtain ⟨n, hn, hreached⟩ := h.reached id hid
  exact ⟨n, by rwa [Catalogue.size_modify], hreached.mono hgrows⟩

theorem addStep {owner : ScopeId} (howner : owner ∈ r.scopes.keys) (d : StepDefinition)
    (hid : d.id ∉ r.steps.keys) : (r.addStep owner d).Invariant where
  scopes := h.scopes.modify owner (f := (·.addStep d.id)) (fun _ => rfl) (fun _ => rfl) fun _ => rfl
  steps := h.steps.attach h.scopes.nodup howner (·.addStep d.id) d hid fun _ => rfl
  hooks := h.hooks.modify owner (·.addStep d.id) fun _ => rfl
  bottom := h.bottom
  nested := (h.reached_modify owner (·.addStep d.id) fun _ => rfl).1
  reached := (h.reached_modify owner (·.addStep d.id) fun _ => rfl).2

theorem addHook {owner : ScopeId} (howner : owner ∈ r.scopes.keys) (d : HookDefinition)
    (hid : d.id ∉ r.hooks.keys) : (r.addHook owner d).Invariant where
  scopes := h.scopes.modify owner (f := (·.addHook d.id)) (fun _ => rfl) (fun _ => rfl) fun _ => rfl
  steps := h.steps.modify owner (·.addHook d.id) fun _ => rfl
  hooks := h.hooks.attach h.scopes.nodup howner (·.addHook d.id) d hid fun _ => rfl
  bottom := h.bottom
  nested := (h.reached_modify owner (·.addHook d.id) fun _ => rfl).1
  reached := (h.reached_modify owner (·.addHook d.id) fun _ => rfl).2

theorem change {r' : Registration} (hchange : r.Change r') : r'.Invariant := by
  cases hchange with
  | none supply defaultMode parameters => exact h.frame supply defaultMode parameters
  | step owner d hpath hid => exact h.addStep (h.head_mem hpath) d hid
  | hook owner d hpath hid => exact h.addHook (h.head_mem hpath) d hid

theorem addScope {owner : ScopeId} {others : List ScopeId} {parent : Scope}
    (hpath : r.path = owner :: others) (hparent : r.scopes.find? owner = some parent) {s : Scope}
    (hid : s.id ∉ r.scopes.keys) (hkind : s.kind ≠ .root)
    (hs : s.children = [] ∧ s.steps = [] ∧ s.hooks = []) : (r.addScope parent.id s).Invariant := by
  obtain ⟨hmem, rfl⟩ := h.scopes.find?_eq_some_iff.1 hparent
  have hgrows := grows_insert r.scopes parent.id s
  have hchild := isChild_insert hparent s
  constructor
  case scopes => exact h.scopes.insert hmem hid hs.1 hkind
  case steps => exact (h.steps.modify parent.id (·.addChild s.id) fun _ => rfl).addScope s hs.2.1
  case hooks => exact (h.hooks.modify parent.id (·.addChild s.id) fun _ => rfl).addScope s hs.2.2
  case bottom =>
    show (s.id :: r.path).getLast? = some r.root
    rw [List.getLast?_cons, h.bottom]
    rfl
  case nested =>
    show (s.id :: r.path).IsChain _
    have hnested := h.nested.imp fun _ _ hc => hc.mono hgrows
    rw [hpath] at hnested ⊢
    exact List.isChain_cons_cons.2 ⟨hchild, hnested⟩
  case reached =>
    intro id hkey
    show ∃ n < ((r.scopes.modify parent.id (·.addChild s.id)).add s.id s).size, Reached _ r.root n id
    change id ∈ ((r.scopes.modify parent.id (·.addChild s.id)).add s.id s).keys at hkey
    rw [Catalogue.keys_add, Catalogue.keys_modify, List.mem_append, List.mem_singleton] at hkey
    rw [Catalogue.size_add, Catalogue.size_modify]
    rcases hkey with hkey | rfl
    · obtain ⟨n, hn, hreached⟩ := h.reached id hkey
      exact ⟨n, Nat.lt_succ_of_lt hn, hreached.mono hgrows⟩
    · -- The new scope is one step further than its parent.
      obtain ⟨n, hn, hreached⟩ := h.reached parent.id (h.head_mem hpath)
      exact ⟨n + 1, Nat.succ_lt_succ hn, .child (hreached.mono hgrows) hchild⟩

theorem openScope (q : ScopeRequest) : (r.openScope q).2.Invariant := by
  rcases r.openScope_cases q with ⟨e, supply, ho⟩ | ⟨parent, hcurrent, hfits, hid, ho⟩
  · rw [ho]
    exact h.frame supply r.defaultMode r.parameters
  · rw [ho]
    obtain ⟨owner, others, s, hpath, hfind, -, hs⟩ := h.exists_current
    obtain rfl := Option.some.inj (hs.symm.trans hcurrent)
    have hkind : q.kind ≠ .root := bne_iff_ne.1 (Bool.and_eq_true_iff.1 hfits).1
    exact h.addScope hpath hfind hid hkind ⟨rfl, rfl, rfl⟩

end Invariant

/-- The root is not closed, since it was open before the scope that is. -/
theorem Invariant.closeScope {before r : Registration} (hbefore : before.path ≠ [])
    (hpath : r.path.tail = before.path) (h : r.Invariant) : r.closeScope.Invariant where
  scopes := h.scopes
  steps := h.steps
  hooks := h.hooks
  bottom := by
    obtain ⟨owner, others, hr⟩ := List.exists_cons_of_ne_nil h.path_ne_nil
    have hbottom := h.bottom
    rw [hr, List.tail_cons] at hpath
    rw [hr, List.getLast?_cons_of_ne_nil (hpath ▸ hbefore)] at hbottom
    rwa [Registration.closeScope, hr]
  nested := h.nested.tail
  reached := h.reached

theorem invariant_start (source : IdSource) : (start source).Invariant where
  scopes := (usual_start source).toRooted
  steps := .empty fun s hs => by rw [List.mem_singleton.1 hs]
  hooks := .empty fun s hs => by rw [List.mem_singleton.1 hs]
  bottom := rfl
  nested := .singleton _
  reached id hid := ⟨0, Nat.zero_lt_one, List.mem_singleton.1 hid ▸ .root⟩

theorem kept_invariant : Kept (fun _ => True) Invariant where
  openScope _ q _ h := h.openScope q
  closeScope _ _ hbefore hpath h := h.closeScope hbefore.path_ne_nil hpath
  change _ _ hchange h := h.change hchange

end Registration

/-- What is registered, and nothing else, occurs in the lists of scopes, and there once in the list of one
scope. -/
structure ListedOnce {κ : Type} [DecidableEq κ] (scopes : Catalogue ScopeId Scope) (list : Scope → List κ)
    (registered : κ → Prop) : Prop where
  once : ∀ id, registered id → ∃ owner s, scopes.find? owner = some s ∧ (list s).count id = 1 ∧
    ∀ other s', scopes.find? other = some s' → id ∈ list s' → other = owner
  only : ∀ owner s, scopes.find? owner = some s → ∀ id ∈ list s, registered id

theorem listedOnce_of_nodup {κ : Type} [DecidableEq κ] {scopes : Catalogue ScopeId Scope}
    {list : Scope → List κ} {registered : κ → Prop} (hscopes : scopes.Keyed Scope.id)
    (hnodup : (scopes.values.flatMap list).Nodup)
    (hregistered : ∀ id, id ∈ scopes.values.flatMap list ↔ registered id) :
    ListedOnce scopes list registered := by
  refine ⟨fun id hid => ?_, fun owner s hs id hid => ?_⟩
  · obtain ⟨s, hs, hmem⟩ := List.mem_flatMap.1 ((hregistered id).2 hid)
    have hlist := (List.nodup_flatMap.1 hnodup).1 s hs
    refine ⟨s.id, s, hscopes.find?_eq_some_iff.2 ⟨hs, rfl⟩, List.count_eq_one_of_mem hlist hmem,
      fun other s' hother hmem' => ?_⟩
    obtain ⟨hs', rfl⟩ := hscopes.find?_eq_some_iff.1 hother
    rw [eq_of_mem_flatMap hnodup hs' hs hmem' hmem]
  · exact (hregistered id).1 (List.mem_flatMap.2 ⟨s, (hscopes.find?_eq_some_iff.1 hs).1, hid⟩)

namespace Registration

/-- The open scopes are nested down to the root, every scope and definition is known by its own
identifier, each is attached to one scope, and every scope is reached from the root. -/
structure WellFormed (r : Registration) : Prop where
  root : r.root ∈ r.scopes.keys
  bottom : r.path.getLast? = some r.root
  nested : r.path.IsChain fun inner outer => IsChild r.scopes outer inner
  scopesKeyed : r.scopes.Keyed Scope.id
  stepsKeyed : r.steps.Keyed StepDefinition.id
  hooksKeyed : r.hooks.Keyed HookDefinition.id
  children : ListedOnce r.scopes Scope.children fun id => id ∈ r.scopes.keys ∧ id ≠ r.root
  steps : ListedOnce r.scopes Scope.steps fun id => id ∈ r.steps.keys
  hooks : ListedOnce r.scopes Scope.hooks fun id => id ∈ r.hooks.keys
  reachable : ∀ id ∈ r.scopes.keys, Relation.ReflTransGen (IsChild r.scopes) r.root id

structure AlwaysOpen (r : Registration) : Prop where
  openScope : ∀ q what, (r.openScope q).1 ≠ .error (.emptyStack what)
  registerStep : ∀ keyword pattern options location what,
    (r.registerStep keyword pattern options location).1 ≠ .error (.emptyStack what)
  registerHook : ∀ type description options what,
    (r.registerHook type description options).1 ≠ .error (.emptyStack what)

namespace Invariant

variable {r : Registration} (h : r.Invariant)
include h

theorem wellFormed : r.WellFormed where
  root := h.root_mem
  bottom := h.bottom
  nested := h.nested
  scopesKeyed := h.scopes.toKeyed
  stepsKeyed := h.steps.keyed
  hooksKeyed := h.hooks.keyed
  children := by
    have hnodup := h.scopes.children.nodup_iff.2 h.scopes.nodup
    refine listedOnce_of_nodup h.scopes.toKeyed hnodup.of_cons fun id => ?_
    rw [← h.scopes.children.mem_iff, List.mem_cons]
    constructor
    · exact fun hid => ⟨.inr hid, fun he => (List.nodup_cons.1 hnodup).1 (he ▸ hid)⟩
    · exact fun ⟨hid, hne⟩ => hid.resolve_left hne
  steps := listedOnce_of_nodup h.scopes.toKeyed (h.steps.once.nodup_iff.2 h.steps.keyed.nodup)
    fun _ => h.steps.once.mem_iff
  hooks := listedOnce_of_nodup h.scopes.toKeyed (h.hooks.once.nodup_iff.2 h.hooks.keyed.nodup)
    fun _ => h.hooks.once.mem_iff
  reachable id hid := by
    obtain ⟨n, -, hreached⟩ := h.reached id hid
    exact hreached.reflTransGen

theorem alwaysOpen : r.AlwaysOpen := by
  obtain ⟨owner, others, s, hpath, -, -, hcurrent⟩ := h.exists_current
  constructor
  case openScope =>
    intro q what
    cases hfits : q.fitsIn s.kind with
    | false => simp [openScope_of_unfit hcurrent hfits]
    | true =>
      by_cases hid : (r.newScope q).id ∈ r.scopes.keys
      · simp [openScope_of_taken hcurrent hfits hid]
      · simp [openScope_of_free hcurrent hfits hid]
  case registerStep =>
    intro keyword pattern options location what
    by_cases hid : (r.newStep keyword pattern options location).id ∈ r.steps.keys
    · simp [registerStep_of_taken hpath hid]
    · simp [registerStep_of_free hpath hid]
  case registerHook =>
    intro type description options what
    by_cases hid : (r.newHook type description options).id ∈ r.hooks.keys
    · simp [registerHook_of_taken hpath hid]
    · simp [registerHook_of_free hpath hid]

theorem exists_finish : ∃ b, r.finish = .ok b ∧ b.root.id = r.root ∧ b.scopes = r.scopes := by
  obtain ⟨s, hs, hid⟩ := h.scopes.mem_keys_iff.1 h.root_mem
  refine ⟨⟨s, r.scopes, r.steps, r.hooks, r.parameters⟩, ?_, hid, rfl⟩
  rw [finish, h.scopes.find?_eq_some_iff.2 ⟨hs, hid⟩]

end Invariant

end Registration

theorem Command.invariant_of_mem_points {source : IdSource} {program : List Command} {r : Registration}
    (hr : r ∈ Command.pointsAll program (.start source)) : r.Invariant :=
  Command.pointsAll_preserve Registration.kept_invariant program (fun _ _ => trivial)
    (Registration.invariant_start source) r hr

/-- Wherever a program gets to, whatever identifiers it draws and whatever fails in it, the registration is
well formed, some scope is open, and the registration can be finished with all its scopes in the tree once
each. -/
theorem Command.points_wellFormed (source : IdSource) (program : List Command) :
    (Command.runAll program (.start source)).2 ∈ Command.pointsAll program (.start source) ∧
      ∀ r ∈ Command.pointsAll program (.start source), r.WellFormed ∧ r.AlwaysOpen ∧
        ∃ b, r.finish = .ok b ∧ b.preorder.length = b.size ∧ (b.preorder.map Scope.id).Nodup := by
  refine ⟨Command.runAll_mem_points program _, fun r hr => ?_⟩
  have h := Command.invariant_of_mem_points hr
  obtain ⟨b, hb, hroot, hscopes⟩ := h.exists_finish
  have hrooted := Blueprint.rooted_of_finish h.scopes hb
  have hperm := hrooted.preorder_perm (by rw [hroot, Blueprint.size, hscopes]; exact h.reached)
  refine ⟨h.wellFormed, h.alwaysOpen, b, hb, ?_, ?_⟩
  · rw [hperm.length_eq, Catalogue.values, List.length_map, Blueprint.size, Catalogue.size]
  · rw [(hperm.map Scope.id).nodup_iff, hrooted.scopes.toKeyed.map_id_values]
    exact hrooted.scopes.nodup

def contested : List Command :=
  [.scope 0 true (.usual .feature "Shop")
    [.scope 1 true (.usual .rule "Guests") [] none,
      .entry 2 false (.hook .setup none {}),
      .scope 3 false (.usual .scenario "Checkout") [.entry 4 false (.hook .teardown none {})] none]
    none]

/-- In the scenario, after its hook was refused. -/
theorem contested_wellFormed :
    ∃ r, r ∈ Command.pointsAll contested
        (.start (.ofList "root" ["shop", "root", "hook", "checkout", "hook"])) ∧
      r.path = [⟨"checkout"⟩, ⟨"shop"⟩, ⟨"root"⟩] ∧ r.scopes.size = 3 ∧ r.WellFormed ∧ r.AlwaysOpen ∧
        ∃ b, r.finish = .ok b ∧ b.preorder.length = b.size ∧ (b.preorder.map Scope.id).Nodup := by
  have hr := List.mem_of_getElem? (l := Command.pointsAll contested
    (.start (.ofList "root" ["shop", "root", "hook", "checkout", "hook"]))) (i := 7) rfl
  exact ⟨_, hr, rfl, rfl, (Command.points_wellFormed _ _).2 _ hr⟩

end FeaturePlan
