import FeaturePlan.Proofs.Scope.Listing
import FeaturePlan.Proofs.Scope.Refinement

/-!
Blueprints as the layouts that they show. The scopes of a layout stand in the tree of the blueprint place by
place, each with the definitions that are laid out in it; so the children of the root and the candidates are
read off the layout.
-/
namespace FeaturePlan

namespace Layout

def kind : Layout → ScopeKind
  | .scope _ kind _ _ _ _ _ _ => kind

def steps : Layout → List StepDefinition
  | .scope _ _ _ _ _ steps _ _ => steps

def children : Layout → List Layout
  | .scope _ _ _ _ _ _ _ children => children

@[simp] theorem toScope_id (l : Layout) : l.toScope.id = l.scopeId := by cases l; rfl

@[simp] theorem toScope_kind (l : Layout) : l.toScope.kind = l.kind := by cases l; rfl

theorem ids_eq (l : Layout) : l.ids = l.scopeId :: idsAll l.children := by cases l; rfl

theorem scopeId_mem_ids (l : Layout) : l.scopeId ∈ l.ids := by
  rw [ids_eq]
  exact List.mem_cons_self

theorem ids_subset_idsAll {l : Layout} {ls : List Layout} (h : l ∈ ls) : l.ids ⊆ idsAll ls := by
  rw [idsAll_eq]
  exact fun id hid => List.mem_flatMap.2 ⟨l, h, hid⟩

theorem ids_subset_of_mem_children {l x : Layout} (h : x ∈ l.children) : x.ids ⊆ l.ids := by
  rw [ids_eq l]
  exact List.subset_cons_of_subset _ (ids_subset_idsAll h)

mutual

/-- The scopes of a layout, each before what is laid out in it and with the scopes that enclose it, the
nearest first. -/
def places (enclosing : List Layout) : Layout → List (Layout × List Layout)
  | .scope id kind name mode details steps hooks children =>
    (.scope id kind name mode details steps hooks children, enclosing) ::
      placesAll (.scope id kind name mode details steps hooks children :: enclosing) children

def placesAll (enclosing : List Layout) : List Layout → List (Layout × List Layout)
  | [] => []
  | l :: ls => l.places enclosing ++ placesAll enclosing ls

end

theorem placesAll_eq (enclosing : List Layout) (ls : List Layout) :
    placesAll enclosing ls = ls.flatMap (places enclosing) := by
  induction ls with
  | nil => rfl
  | cons l ls ih => rw [placesAll, ih, List.flatMap_cons]

theorem places_eq (enclosing : List Layout) (l : Layout) :
    l.places enclosing = (l, enclosing) :: placesAll (l :: enclosing) l.children := by
  cases l
  rfl

mutual

theorem forall_mem_places {P : Layout → List Layout → Prop}
    (hP : ∀ l enclosing, P l enclosing → ∀ x ∈ l.children, P x (l :: enclosing)) (l : Layout)
    {enclosing : List Layout} (h : P l enclosing) : ∀ place ∈ l.places enclosing, P place.1 place.2 := by
  cases l with
  | scope id kind name mode details steps hooks children =>
    rw [places, List.forall_mem_cons]
    exact ⟨h, forall_mem_placesAll hP children (hP _ enclosing h)⟩

theorem forall_mem_placesAll {P : Layout → List Layout → Prop}
    (hP : ∀ l enclosing, P l enclosing → ∀ x ∈ l.children, P x (l :: enclosing)) (ls : List Layout)
    {enclosing : List Layout} (h : ∀ l ∈ ls, P l enclosing) :
    ∀ place ∈ placesAll enclosing ls, P place.1 place.2 := by
  cases ls with
  | nil => exact List.forall_mem_nil _
  | cons l ls =>
    obtain ⟨hl, hls⟩ := List.forall_mem_cons.1 h
    rw [placesAll, List.forall_mem_append]
    exact ⟨forall_mem_places hP l hl, forall_mem_placesAll hP ls hls⟩

end

theorem forall_of_hereditary {P : Layout → Prop} (hP : ∀ l, P l → ∀ x ∈ l.children, P x) {ls : List Layout}
    (h : ∀ l ∈ ls, P l) : ∀ place ∈ placesAll [] ls, P place.1 ∧ ∀ x ∈ place.2, P x := by
  refine forall_mem_placesAll (P := fun l enclosing => P l ∧ ∀ x ∈ enclosing, P x) ?_ ls fun l hl => ?_
  · exact fun l enclosing hl x hx => ⟨hP l hl.1 x hx, List.forall_mem_cons.2 hl⟩
  · exact ⟨h l hl, List.forall_mem_nil _⟩

theorem mem_or_enclosed {ls : List Layout} :
    ∀ place ∈ placesAll [] ls, place.1 ∈ ls ∨ ∃ l ∈ ls, l ∈ place.2 := by
  refine forall_mem_placesAll (P := fun l enclosing => l ∈ ls ∨ ∃ x ∈ ls, x ∈ enclosing) ?_ ls fun l => .inl
  rintro l enclosing (hl | ⟨x, hx, hmem⟩) _ _
  · exact .inr ⟨l, hl, List.mem_cons_self⟩
  · exact .inr ⟨x, hx, List.mem_cons_of_mem l hmem⟩

end Layout

namespace Layout.StandsIn

variable {b : Blueprint} {l : Layout} (h : l.StandsIn b.scopes b.steps b.hooks)
include h

theorem of_mem_children {x : Layout} (hx : x ∈ l.children) : x.StandsIn b.scopes b.steps b.hooks := by
  obtain ⟨-, -, -, hchildren⟩ := h
  exact hchildren x hx

theorem children_toScope : b.children l.toScope = l.children.map toScope := by
  obtain ⟨-, -, -, hchildren⟩ := h
  exact filterMap_map_eq_map fun x hx => (hchildren x hx).find?_eq

theorem stepsOf_toScope : b.stepsOf l.toScope = l.steps := by
  obtain ⟨-, hsteps, -, -⟩ := h
  exact (filterMap_map_eq_map hsteps).trans (List.map_id' _)

/-- The places of the tree are those of a layout that is registered, once it is as deep as the layout has
scopes. -/
theorem places_treeTo (outer : List Scope) {depth : Nat} (hdepth : l.ids.length ≤ depth)
    (enclosing : List Layout) : (b.treeTo depth l.toScope).places (enclosing.map toScope ++ outer) =
      (l.places enclosing).map fun place => (place.1.toScope, place.2.map toScope ++ outer) := by
  induction depth generalizing l enclosing with
  | zero =>
    rw [ids_eq, List.length_cons] at hdepth
    omega
  | succ depth ih =>
    rw [ids_eq, List.length_cons] at hdepth
    rw [Blueprint.places_treeTo_succ, h.children_toScope, places_eq, placesAll_eq, List.map_cons,
      List.flatMap_map, List.map_flatMap]
    refine congrArg (_ :: ·) (List.flatMap_congr fun x hx => ?_)
    have hlength := (length_ids_le hx).trans (Nat.le_of_succ_le_succ hdepth)
    exact ih (h.of_mem_children hx) hlength (l :: enclosing)

end Layout.StandsIn

structure Blueprint.Shows (b : Blueprint) (l : Layout) : Prop where
  rooted : b.Rooted
  root : b.root = l.toScope
  stands : l.StandsIn b.scopes b.steps b.hooks
  size : l.ids.length ≤ b.size

def Blueprint.candidateAt (b : Blueprint) (place : Layout × List Layout) : Except ScopeError Candidate :=
  b.candidate place.1.toScope (place.2.map Layout.toScope ++ [b.root])

namespace Blueprint.Shows

variable {b : Blueprint} {l : Layout} (h : b.Shows l)
include h

theorem children_root : b.children b.root = l.children.map Layout.toScope := by
  rw [h.root, h.stands.children_toScope]

theorem stepsOf_root : b.stepsOf b.root = l.steps := by
  rw [h.root, h.stands.stepsOf_toScope]

theorem places_tree : b.tree.places [] = (b.root, []) :: (Layout.placesAll [] l.children).map fun place =>
    (place.1.toScope, place.2.map Layout.toScope ++ [b.root]) := by
  have hsize := h.size
  rw [Layout.ids_eq, List.length_cons] at hsize
  obtain ⟨depth, hdepth⟩ := Nat.exists_eq_add_one_of_ne_zero (Nat.ne_zero_of_lt hsize)
  rw [tree, hdepth, places_treeTo_succ, h.children_root, Layout.placesAll_eq, List.flatMap_map,
    List.map_flatMap]
  refine congrArg (_ :: ·) (List.flatMap_congr fun x hx => ?_)
  have hlength := (Layout.length_ids_le hx).trans (Nat.le_of_succ_le_succ (hdepth ▸ hsize))
  exact (h.stands.of_mem_children hx).places_treeTo [b.root] hlength []

theorem candidates_eq : b.candidates =
    ((Layout.placesAll [] l.children).filter (·.1.kind.isExecutable)).mapM b.candidateAt := by
  rw [h.rooted.candidates_eq_mapM, h.places_tree,
    List.filter_cons_of_neg (by simp [h.rooted.root_kind, ScopeKind.isExecutable]), List.filter_map]
  simp only [Function.comp_def, Layout.toScope_kind]
  exact mapM_map_congr fun place _ => rfl

end Blueprint.Shows

def Contribution.atRoot (c : Contribution) (root : ScopeId) : Layout :=
  .scope root .root "" .standard {} c.steps c.hooks c.children

theorem Registration.LaidOut.exists_shows {source : IdSource} {r : Registration} {c : Contribution}
    (h : (start source).LaidOut r ⟨(start source).root, .root, "", .standard, {}, [], [], []⟩ c)
    (hr : r.Invariant) :
    ∃ b, r.finish = .ok b ∧ b.Shows (c.atRoot (start source).root) ∧ b.parameters = r.parameters := by
  have hstands : (c.atRoot (start source).root).StandsIn r.scopes r.steps r.hooks :=
    .scope h.around h.newSteps h.newHooks h.children
  have hroot : r.scopes.find? r.root = some (c.atRoot (start source).root).toScope := by
    rw [h.root]
    exact hstands.find?_eq
  have hfinish : r.finish = .ok ⟨(c.atRoot (start source).root).toScope, r.scopes, r.steps, r.hooks,
      r.parameters⟩ := by rw [finish, hroot]
  have hsize : (c.atRoot (start source).root).ids.length = r.scopes.size := by
    rw [h.size, Nat.add_comm]
    rfl
  exact ⟨_, hfinish, ⟨Blueprint.rooted_of_finish hr.scopes hfinish, rfl, hstands, hsize.le⟩, rfl⟩

end FeaturePlan
