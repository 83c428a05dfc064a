import FeaturePlan.Proofs.Lists
import FeaturePlan.Proofs.Scope.Freshness
import FeaturePlan.Proofs.Scope.Layout
import FeaturePlan.Scope.Blueprint

/-!
A program registers what it lays out, if no identifier is handed out twice. Commands only add: to the
innermost open scope they attach what they lay out in it, and all other scopes that were there before stay
as they are. So a scope that is closed keeps what was laid out in it, and the finished tree shows the
layout.
-/
namespace FeaturePlan

namespace Layout

def scopeId : Layout → ScopeId
  | .scope id _ _ _ _ _ _ _ => id

def toScope : Layout → Scope
  | .scope id kind name mode details steps hooks children =>
    ⟨id, kind, name, mode, details, steps.map StepDefinition.id, hooks.map HookDefinition.id,
      children.map scopeId⟩

mutual

def ids : Layout → List ScopeId
  | .scope id _ _ _ _ _ _ children => id :: idsAll children

def idsAll : List Layout → List ScopeId
  | [] => []
  | l :: ls => l.ids ++ idsAll ls

end

theorem idsAll_eq (ls : List Layout) : idsAll ls = ls.flatMap ids := by
  induction ls with
  | nil => rfl
  | cons l ls ih => rw [idsAll, ih, List.flatMap_cons]

theorem length_ids_le {l : Layout} {ls : List Layout} (h : l ∈ ls) :
    l.ids.length ≤ (idsAll ls).length := by
  rw [idsAll_eq]
  exact (List.sublist_flatten_of_mem (List.mem_map_of_mem h)).length_le

/-- A layout is registered: its scopes and definitions are found under their identifiers. -/
inductive StandsIn (scopes : Catalogue ScopeId Scope) (steps : Catalogue StepId StepDefinition)
    (hooks : Catalogue HookId HookDefinition) : Layout → Prop
  | scope {id : ScopeId} {kind : ScopeKind} {name : String} {mode : Mode} {details : ScopeDetails}
      {ownSteps : List StepDefinition} {ownHooks : List HookDefinition} {children : List Layout}
      (hscope : scopes.find? id = some (toScope (.scope id kind name mode details ownSteps ownHooks children)))
      (hsteps : ∀ d ∈ ownSteps, steps.find? d.id = some d)
      (hhooks : ∀ d ∈ ownHooks, hooks.find? d.id = some d)
      (hchildren : ∀ l ∈ children, StandsIn scopes steps hooks l) :
      StandsIn scopes steps hooks (.scope id kind name mode details ownSteps ownHooks children)

namespace StandsIn

variable {scopes scopes' : Catalogue ScopeId Scope} {steps steps' : Catalogue StepId StepDefinition}
  {hooks hooks' : Catalogue HookId HookDefinition} {l : Layout}

theorem find?_eq (h : l.StandsIn scopes steps hooks) : scopes.find? l.scopeId = some l.toScope := by
  obtain ⟨hscope, -, -, -⟩ := h
  exact hscope

/-- A layout stays registered if its own scopes do not change and no definition is lost. -/
theorem mono (h : l.StandsIn scopes steps hooks)
    (hscopes : ∀ id ∈ l.ids, ∀ s, scopes.find? id = some s → scopes'.find? id = some s)
    (hsteps : steps.Within steps') (hhooks : hooks.Within hooks') : l.StandsIn scopes' steps' hooks' := by
  induction h with
  | @scope id kind name mode details ownSteps ownHooks children hscope hs hh hchildren ih =>
    refine .scope (hscopes id (by simp [ids]) _ hscope) (fun d hd => hsteps _ _ (hs d hd))
      (fun d hd => hhooks _ _ (hh d hd)) fun l hl => ih l hl fun id' hid' => hscopes id' ?_
    rw [ids, idsAll_eq]
    exact List.mem_cons_of_mem _ (List.mem_flatMap.2 ⟨l, hl, hid'⟩)

end StandsIn

end Layout

theorem layoutAll_eq (b : Blueprint) (ts : List ScopeTree) :
    ScopeTree.layoutAll b ts = ts.map (ScopeTree.layout b) := by
  induction ts with
  | nil => rfl
  | cons t ts ih => rw [ScopeTree.layoutAll, ih, List.map_cons]

/-- The tree shows a layout that is registered, once it is as deep as the layout has scopes. -/
theorem Layout.StandsIn.layout_treeTo {b : Blueprint} {l : Layout}
    (h : l.StandsIn b.scopes b.steps b.hooks) :
    ∀ depth, l.ids.length ≤ depth → (b.treeTo depth l.toScope).layout b = l := by
  induction h with
  | @scope id kind name mode details steps hooks children hscope hsteps hhooks hchildren ih =>
    intro depth hdepth
    rw [ids, List.length_cons] at hdepth
    obtain ⟨depth, rfl⟩ := Nat.exists_eq_add_one_of_ne_zero (Nat.ne_zero_of_lt hdepth)
    have hbelow : b.children (toScope (.scope id kind name mode details steps hooks children)) =
        children.map toScope := filterMap_map_eq_map fun l hl => (hchildren l hl).find?_eq
    rw [Blueprint.treeTo, hbelow, ScopeTree.layout, layoutAll_eq, List.map_map, List.map_map]
    congr 1
    · exact (filterMap_map_eq_map hsteps).trans (List.map_id' steps)
    · exact (filterMap_map_eq_map hhooks).trans (List.map_id' hooks)
    · refine (List.map_congr_left fun l hl => ?_).trans (List.map_id' children)
      exact ih l hl depth (Nat.le_trans (length_ids_le hl) (Nat.le_of_succ_le_succ hdepth))

namespace Contribution

def attachTo (c : Contribution) (p : Scope) : Scope :=
  { p with
    steps := p.steps ++ c.steps.map StepDefinition.id
    hooks := p.hooks ++ c.hooks.map HookDefinition.id
    children := p.children ++ c.children.map Layout.scopeId }

@[simp] theorem attachTo_id (c : Contribution) (p : Scope) : (c.attachTo p).id = p.id := rfl

@[simp] theorem attachTo_kind (c : Contribution) (p : Scope) : (c.attachTo p).kind = p.kind := rfl

theorem attachTo_andThen (first rest : Contribution) (p : Scope) :
    (first.andThen rest).attachTo p = rest.attachTo (first.attachTo p) := by
  simp [attachTo, andThen]

end Contribution

namespace Registration

/-- A scope is the innermost open one, and identifiers that are handed out are new. -/
structure OpenAt (r : Registration) (p : Scope) : Prop extends r.Fresh where
  path : r.path.head? = some p.id
  found : r.scopes.find? p.id = some p

/-- In the innermost open scope, the registration has more by what is laid out. -/
structure LaidOut (r r' : Registration) (p : Scope) (c : Contribution) : Prop where
  path : r'.path = r.path
  root : r'.root = r.root
  source : r'.supply.source = r.supply.source
  drawn : r'.Drawn
  around : r'.scopes.find? p.id = some (c.attachTo p)
  others : ∀ id, id ≠ p.id → ∀ s, r.scopes.find? id = some s → r'.scopes.find? id = some s
  steps : r.steps.Within r'.steps
  hooks : r.hooks.Within r'.hooks
  newSteps : ∀ d ∈ c.steps, r'.steps.find? d.id = some d
  newHooks : ∀ d ∈ c.hooks, r'.hooks.find? d.id = some d
  children : ∀ l ∈ c.children, l.StandsIn r'.scopes r'.steps r'.hooks
  fresh : ∀ id ∈ Layout.idsAll c.children, id ∉ r.scopes.keys
  size : r'.scopes.size = r.scopes.size + (Layout.idsAll c.children).length

def surroundings (r : Registration) : Surroundings := ⟨r.supply, r.defaultMode, r.parameters⟩

structure Agrees (r : Registration) (p : Scope) (outcome : Option ScopeError × Registration)
    (laid : Contribution × Surroundings) : Prop where
  laidOut : r.LaidOut outcome.2 p laid.1
  surroundings : outcome.2.surroundings = laid.2
  failure : outcome.1 = laid.1.failure

namespace LaidOut

variable {r r' r'' : Registration} {p : Scope} {c c' : Contribution}

theorem mem_keys (h : r.LaidOut r' p c) {id : ScopeId} (hid : id ∈ r.scopes.keys) : id ∈ r'.scopes.keys := by
  rw [← Catalogue.contains_eq_true_iff, Catalogue.contains, Option.isSome_iff_exists] at hid
  obtain ⟨s, hs⟩ := hid
  by_cases hp : id = p.id
  · rw [hp]
    exact Catalogue.mem_keys_of_find? h.around
  · exact Catalogue.mem_keys_of_find? (h.others id hp s hs)

theorem openAt (h : r.LaidOut r' p c) (hr : r.OpenAt p) : r'.OpenAt (c.attachTo p) where
  path := by rw [h.path]; exact hr.path
  found := h.around
  drawn := h.drawn
  neverRepeats := by rw [h.source]; exact hr.neverRepeats

theorem tolerate (h : r.LaidOut r' p c) (tolerated : Bool) : r.LaidOut r' p (c.tolerate tolerated) :=
  { h with }

theorem trans (h : r.LaidOut r' p c) (h' : r'.LaidOut r'' (c.attachTo p) c') (hr : r.OpenAt p) :
    r.LaidOut r'' p (c.andThen c') where
  path := h'.path.trans h.path
  root := h'.root.trans h.root
  source := h'.source.trans h.source
  drawn := h'.drawn
  around := by rw [Contribution.attachTo_andThen]; exact h'.around
  others id hid s hs := h'.others id hid s (h.others id hid s hs)
  steps := h.steps.trans h'.steps
  hooks := h.hooks.trans h'.hooks
  newSteps d hd := (List.mem_append.1 hd).elim (fun hd => h'.steps _ _ (h.newSteps d hd)) (h'.newSteps d)
  newHooks d hd := (List.mem_append.1 hd).elim (fun hd => h'.hooks _ _ (h.newHooks d hd)) (h'.newHooks d)
  children l hl := by
    rcases List.mem_append.1 hl with hl | hl
    · refine (h.children l hl).mono (fun id hid => h'.others id ?_) h'.steps h'.hooks
      -- What was laid out has identifiers of its own.
      rintro rfl
      refine h.fresh _ ?_ (Catalogue.mem_keys_of_find? hr.found)
      rw [Layout.idsAll_eq]
      exact List.mem_flatMap.2 ⟨l, hl, hid⟩
    · exact h'.children l hl
  fresh id hid := by
    rw [Contribution.andThen, Layout.idsAll_eq, List.flatMap_append, ← Layout.idsAll_eq, ← Layout.idsAll_eq,
      List.mem_append] at hid
    rcases hid with hid | hid
    · exact h.fresh id hid
    · exact fun hkey => h'.fresh id hid (h.mem_keys hkey)
  size := by
    rw [h'.size, h.size, Contribution.andThen, Layout.idsAll_eq (c.children ++ c'.children),
      List.flatMap_append, List.length_append, ← Layout.idsAll_eq, ← Layout.idsAll_eq, Nat.add_assoc]

end LaidOut

namespace OpenAt

variable {r : Registration} {p : Scope} (h : r.OpenAt p)
include h

theorem exists_path : ∃ others, r.path = p.id :: others := List.head?_eq_some_iff.1 h.path

theorem current?_eq : r.current? = some p := by
  rw [current?, h.path, Option.bind_some, h.found]

theorem laidOut_none (defaultMode : Mode) (parameters : Parameters) (failure : Option ScopeError) :
    r.LaidOut { r with defaultMode, parameters } p { failure } where
  path := rfl
  root := rfl
  source := rfl
  drawn := ⟨h.drawn.scopes, h.drawn.steps, h.drawn.hooks⟩
  around := by rw [h.found]; simp [Contribution.attachTo]
  others _ _ _ hs := hs
  steps := .refl _
  hooks := .refl _
  newSteps := List.forall_mem_nil _
  newHooks := List.forall_mem_nil _
  children := List.forall_mem_nil _
  fresh := List.forall_mem_nil _
  size := rfl

theorem laidOut_step (keyword : StepKeyword) (pattern : Pattern) (options : DefinitionOptions)
    (location : Option Location) :
    r.LaidOut (r.addStep p.id (r.newStep keyword pattern options location)) p
      { steps := [r.newStep keyword pattern options location] } where
  path := rfl
  root := rfl
  source := rfl
  drawn := (h.toFresh.addStep p.id rfl).drawn
  around := by
    simp [addStep, Catalogue.find?_modify, h.found, Contribution.attachTo, Scope.addStep]
  others id hid s hs := by rw [addStep, Catalogue.find?_modify, if_neg hid, hs]
  steps := Catalogue.within_add _ _ _
  hooks := .refl _
  newSteps d hd := by
    rw [List.mem_singleton.1 hd]
    exact Catalogue.find?_add_self (h.newStep_not_mem keyword pattern options location) _
  newHooks := List.forall_mem_nil _
  children := List.forall_mem_nil _
  fresh := List.forall_mem_nil _
  size := Catalogue.size_modify _ _ _

theorem laidOut_hook (type : HookType) (description : Option String) (options : DefinitionOptions) :
    r.LaidOut (r.addHook p.id (r.newHook type description options)) p
      { hooks := [r.newHook type description options] } where
  path := rfl
  root := rfl
  source := rfl
  drawn := (h.toFresh.addHook p.id rfl).drawn
  around := by
    simp [addHook, Catalogue.find?_modify, h.found, Contribution.attachTo, Scope.addHook]
  others id hid s hs := by rw [addHook, Catalogue.find?_modify, if_neg hid, hs]
  steps := .refl _
  hooks := Catalogue.within_add _ _ _
  newSteps := List.forall_mem_nil _
  newHooks d hd := by
    rw [List.mem_singleton.1 hd]
    exact Catalogue.find?_add_self (h.newHook_not_mem type description options) _
  children := List.forall_mem_nil _
  fresh := List.forall_mem_nil _
  size := Catalogue.size_modify _ _ _

theorem addScope (q : ScopeRequest) : (r.addScope p.id (r.newScope q)).OpenAt (r.newScope q) where
  toFresh := h.toFresh.addScope p.id q
  path := rfl
  found := Catalogue.find?_add_self (by rw [Catalogue.keys_modify]; exact h.newScope_not_mem q) _

theorem laidOut_scope (q : ScopeRequest) {r' : Registration} {c : Contribution}
    (hinner : (r.addScope p.id (r.newScope q)).LaidOut r' (r.newScope q) c) (failure : Option ScopeError) :
    r.LaidOut r'.closeScope p
      { children := [.scope (r.newScope q).id q.kind q.name (r.newScope q).mode q.metadata.details c.steps
          c.hooks c.children], failure } := by
  have hnew := h.newScope_not_mem q
  have hne : p.id ≠ (r.newScope q).id := ne_of_mem_of_not_mem (Catalogue.mem_keys_of_find? h.found) hnew
  constructor
  case path => rw [closeScope, hinner.path]; rfl
  case root => exact hinner.root
  case source => exact hinner.source
  case drawn => exact ⟨hinner.drawn.scopes, hinner.drawn.steps, hinner.drawn.hooks⟩
  case around =>
    -- The parent gets its child when the scope is opened, and nothing inside touches it again.
    refine hinner.others p.id hne _ ?_
    simp [Registration.addScope, Catalogue.find?_add, Catalogue.find?_modify, h.found, Contribution.attachTo,
      Scope.addChild, Layout.scopeId]
  case others =>
    intro id hid s hs
    have hne' : id ≠ (r.newScope q).id := ne_of_mem_of_not_mem (Catalogue.mem_keys_of_find? hs) hnew
    refine hinner.others id hne' s ?_
    rw [Registration.addScope, Catalogue.find?_add, Catalogue.find?_modify, if_neg hid, hs, Option.some_or]
  case steps => exact hinner.steps
  case hooks => exact hinner.hooks
  case newSteps => exact List.forall_mem_nil _
  case newHooks => exact List.forall_mem_nil _
  case children =>
    refine List.forall_mem_singleton.2 (.scope ?_ hinner.newSteps hinner.newHooks hinner.children)
    rw [closeScope, hinner.around]
    simp [Contribution.attachTo, Layout.toScope, newScope]
  case fresh =>
    intro id hid
    rw [Layout.idsAll, Layout.ids, Layout.idsAll, List.append_nil, List.mem_cons] at hid
    rcases hid with rfl | hid
    · exact hnew
    · have hfresh := hinner.fresh id hid
      rw [Registration.addScope, Catalogue.keys_add, Catalogue.keys_modify, List.mem_append, not_or] at hfresh
      exact hfresh.1
  case size =>
    have hsize := hinner.size
    rw [Registration.addScope, Catalogue.size_add, Catalogue.size_modify] at hsize
    rw [closeScope, hsize, Layout.idsAll, Layout.ids, Layout.idsAll, List.append_nil, List.length_cons]
    omega

end OpenAt

end Registration

section Runs

open Registration

theorem Reply.failure?_eq (reply : Reply) (tolerated : Bool) :
    reply.failure? tolerated = if tolerated then none else reply.failure? false := by
  cases reply <;> cases tolerated <;> rfl

theorem Surroundings.scopeMode_eq (s : Surroundings) (m : ScopeMetadata) :
    s.scopeMode m = m.resolveMode s.defaultMode := by
  rw [scopeMode, ScopeMetadata.resolveMode]
  cases m.mode <;> cases m.variant <;> rfl

theorem Surroundings.definitionMode_eq (s : Surroundings) (options : DefinitionOptions) :
    s.definitionMode options = options.mode.getD s.defaultMode := by
  rw [definitionMode]
  cases options.mode <;> rfl

theorem Entry.agrees (e : Entry) {r : Registration} {p : Scope} (h : r.OpenAt p) :
    r.Agrees p ((e.run r).1.failure? false, (e.run r).2) (e.layOut r.surroundings) := by
  obtain ⟨others, hpath⟩ := h.exists_path
  cases e with
  | step keyword pattern options location =>
    rw [Entry.run, Entry.layOut]
    cases pattern.read with
    | error e => exact ⟨h.laidOut_none r.defaultMode r.parameters none, rfl, rfl⟩
    | ok pattern =>
      dsimp only
      rw [registerStep_of_free hpath (h.newStep_not_mem keyword pattern options location),
        Surroundings.definitionMode_eq]
      exact ⟨h.laidOut_step keyword pattern options location, rfl, rfl⟩
  | hook type description options =>
    rw [Entry.run, Entry.layOut, registerHook_of_free hpath (h.newHook_not_mem type description options)]
    dsimp only
    rw [Surroundings.definitionMode_eq]
    exact ⟨h.laidOut_hook type description options, rfl, rfl⟩
  | parameter name regex =>
    have hparameters : r.surroundings.parameters = r.parameters := rfl
    rw [Entry.run, Entry.layOut, defineParameter, hparameters]
    cases r.parameters.define name regex with
    | ok parameters => exact ⟨h.laidOut_none r.defaultMode parameters none, rfl, rfl⟩
    | error fault => exact ⟨h.laidOut_none r.defaultMode r.parameters _, rfl, rfl⟩
  | defaultMode mode => exact ⟨h.laidOut_none mode r.parameters none, rfl, rfl⟩
  | describe => exact ⟨h.laidOut_none r.defaultMode r.parameters none, rfl, rfl⟩

theorem ScopeRequest.fitsIn_iff (q : ScopeRequest) (parent : ScopeKind) :
    q.fitsIn parent = true ↔ q.kind ≠ .root ∧ q.allowedParents.all (·.contains parent) := by
  rw [fitsIn, Bool.and_eq_true_iff, bne_iff_ne]

theorem Registration.Agrees.tolerate {r r' : Registration} {p : Scope} {failure : Option ScopeError}
    {c : Contribution} {s : Surroundings} (h : r.Agrees p (failure, r') (c, s)) (tolerated : Bool) :
    r.Agrees p (if tolerated then none else failure, r') (c.tolerate tolerated, s) :=
  ⟨h.laidOut.tolerate tolerated, h.surroundings, congrArg (if tolerated then none else ·) h.failure⟩

mutual

/-- By recursion over commands: what is open around a command is open around those inside it. -/
theorem Command.agrees (c : Command) {r : Registration} {p : Scope} (h : r.OpenAt p) :
    r.Agrees p ((c.run r).1.failure, (c.run r).2) (c.layOut p.kind r.surroundings) := by
  cases c with
  | entry label tolerated e =>
    have hentry := (e.agrees h).tolerate tolerated
    rw [← Reply.failure?_eq] at hentry
    rw [Command.run, Command.layOut]
    exact hentry
  | scope label tolerated q body failure =>
    rw [Command.layOut]
    cases hfits : q.fitsIn p.kind with
    | false =>
      have hunfit := mt (q.fitsIn_iff p.kind).2 (Bool.eq_false_iff.1 hfits)
      rw [if_neg hunfit, Command.run_of_refused (openScope_of_unfit h.current?_eq hfits)]
      exact Agrees.tolerate ⟨h.laidOut_none r.defaultMode r.parameters _, rfl, rfl⟩ tolerated
    | true =>
      have hopen := openScope_of_free h.current?_eq hfits (h.newScope_not_mem q)
      obtain ⟨hlaid, hsurroundings, hfailure⟩ := Command.agreesAll body (h.addScope q)
      dsimp only at hfailure
      rw [if_pos ((q.fitsIn_iff p.kind).1 hfits), Command.run_of_opened hopen,
        Command.failure_of_opened hopen, hfailure]
      dsimp only
      rw [Surroundings.scopeMode_eq]
      exact Agrees.tolerate ⟨h.laidOut_scope q hlaid _, hsurroundings, rfl⟩ tolerated

theorem Command.agreesAll (cs : List Command) {r : Registration} {p : Scope} (h : r.OpenAt p) :
    r.Agrees p ((Command.runAll cs r).1.failure, (Command.runAll cs r).2)
      (Command.layOutAll p.kind cs r.surroundings) := by
  cases cs with
  | nil => exact ⟨h.laidOut_none r.defaultMode r.parameters none, rfl, rfl⟩
  | cons c cs =>
    have hfirst := Command.agrees c h
    have hfailure := hfirst.failure
    rw [Command.layOutAll]
    dsimp only at hfailure ⊢
    rw [← hfailure]
    cases hf : (c.run r).1.failure with
    | some e =>
      rw [Command.runAll_of_failure hf]
      rw [hf] at hfirst
      exact hfirst
    | none =>
      have hrest := Command.agreesAll cs (hfirst.laidOut.openAt h)
      rw [hfirst.surroundings] at hrest
      rw [Command.registration_of_success hf, Command.failure_of_success hf]
      exact ⟨hfirst.laidOut.trans hrest.laidOut h, hrest.surroundings, hrest.failure⟩

end

end Runs

theorem Registration.openAt_start {source : IdSource} (h : source.NeverRepeats) :
    (start source).OpenAt ⟨(start source).root, .root, "", .standard, {}, [], [], []⟩ where
  toFresh := fresh_start h
  path := rfl
  found := Catalogue.find?_add_self List.not_mem_nil _

/-- Whatever fails in a program, it ends with the tree that it lays out, with the failure that the layout
tells and with the same parameters. -/
theorem Layout.shown_of_program {source : IdSource} (h : source.NeverRepeats) (program : List Command) :
    ∃ b, (Command.runAll program (.start source)).2.finish = .ok b ∧
      b.layout = Layout.ofProgram source program ∧
      (Command.runAll program (.start source)).1.failure =
        (Command.layOutAll .root program (.start source)).1.failure ∧
      b.parameters = (Command.layOutAll .root program (.start source)).2.parameters := by
  obtain ⟨hlaid, hsurroundings, hfailure⟩ := Command.agreesAll program (Registration.openAt_start h)
  generalize Command.runAll program (.start source) = outcome at hlaid hsurroundings hfailure ⊢
  have hstands : (Layout.ofProgram source program).StandsIn outcome.2.scopes outcome.2.steps outcome.2.hooks :=
    .scope hlaid.around hlaid.newSteps hlaid.newHooks hlaid.children
  have hsize : outcome.2.scopes.size = (Layout.ofProgram source program).ids.length := by
    rw [hlaid.size, Nat.add_comm]
    rfl
  refine ⟨⟨(Layout.ofProgram source program).toScope, outcome.2.scopes, outcome.2.steps, outcome.2.hooks,
    outcome.2.parameters⟩, ?_, ?_, hfailure, congrArg Surroundings.parameters hsurroundings⟩
  · have hroot : outcome.2.scopes.find? (Registration.start source).root =
        some (Layout.ofProgram source program).toScope := hstands.find?_eq
    rw [Registration.finish, hlaid.root, hroot]
  · rw [Blueprint.layout, Blueprint.tree, Blueprint.size, hsize]
    exact Layout.StandsIn.layout_treeTo hstands _ (Nat.le_refl _)

/-- A feature whose scenario fails and that ends at a feature which may not stand in it, and another feature
in the mode that the first one left behind. -/
def interrupted : List Command :=
  [.scope 0 true (.usual .feature "Shop")
    [.scope 1 true (.usual .scenario "Browse") [.entry 2 false (.hook .setup none {})]
        (some (.orphaned "Browse")),
      .entry 3 false (.defaultMode .skip),
      .scope 4 false (.usual .feature "Cellar") [] none,
      .scope 5 false (.usual .scenario "Checkout") [] none]
    none,
    .scope 6 false (.usual .feature "Office") [] none]

theorem interrupted_shown :
    ∃ b, (Command.runAll interrupted (.start .sequential)).2.finish = .ok b ∧
      b.layout = .scope ⟨"root-1"⟩ .root "" .standard {} [] []
        [.scope ⟨"feature-1"⟩ .feature "Shop" .standard {} [] []
          [.scope ⟨"scenario-1"⟩ .scenario "Browse" .standard {} [] [⟨⟨"hook-1"⟩, .setup, none, .standard, {}⟩] []],
        .scope ⟨"feature-2"⟩ .feature "Office" .skip {} [] [] []] ∧
      (Command.runAll interrupted (.start .sequential)).1.failure = none ∧ b.parameters = {} := by
  obtain ⟨b, hb, hlayout, hfailure, hparameters⟩ :=
    Layout.shown_of_program IdSource.sequential_neverRepeats interrupted
  exact ⟨b, hb, hlayout.trans rfl, hfailure.trans rfl, hparameters.trans rfl⟩

end FeaturePlan
