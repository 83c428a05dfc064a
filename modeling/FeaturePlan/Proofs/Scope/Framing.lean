import FeaturePlan.Proofs.Scope.WellFormed
import FeaturePlan.Proofs.Step.Growth

/-!
What operations on a registration leave alone. One that is refused changes nothing, but for the identifier
that it may have drawn. And whatever happens while a scope is open happens inside of it: once it is closed,
all that was there before is as it was, and only the parent has the scope as one child more.
-/
namespace FeaturePlan
namespace Registration

/-- A registration made of another one by operations in sequence, each of which may depend on all that was
done before. An operation on an open scope is an entry, or opens a scope for more of them. -/
inductive Performs : Registration → Registration → Prop
  | refl (r : Registration) : Performs r r
  | entry {r r' : Registration} (h : Performs r r') (e : Entry) : Performs r (e.run r').2
  | createScope {r r' : Registration} (h : Performs r r') (q : ScopeRequest)
      (action : Registration → Except ScopeError Unit × Registration)
      (haction : ∀ id, (r'.openScope q).1 = .ok id →
        Performs (r'.openScope q).2 (action (r'.openScope q).2).2) :
      Performs r (r'.createScope q action).2

/-- An operation that is refused loses an identifier at most, and that only if the identifier is taken. -/
structure Atomic (r : Registration) : Prop where
  unfitScope : ∀ q kind name parent, (r.openScope q).1 = .error (.invalidParent kind name parent) →
    ∀ action, r.createScope q action = (.error (.invalidParent kind name parent), r)
  takenScope : ∀ q id, (r.openScope q).1 = .error (.duplicateId id) → ∀ action, r.createScope q action =
    (.error (.duplicateId id), { r with supply := (r.supply.draw (.scope q.kind)).2 })
  takenStep : ∀ keyword pattern options location id,
    (r.registerStep keyword pattern options location).1 = .error (.duplicateId id) →
      (r.registerStep keyword pattern options location).2 = { r with supply := (r.supply.draw .step).2 }
  takenHook : ∀ type description options id,
    (r.registerHook type description options).1 = .error (.duplicateId id) →
      (r.registerHook type description options).2 = { r with supply := (r.supply.draw .hook).2 }
  parameter : ∀ name regex e,
    (r.defineParameter name regex).1 = .error e → (r.defineParameter name regex).2 = r

/-- The second registration has one scope more right below the parent, which was innermost, and the same
scopes are open. It may have more inside the new scope, and more definitions, but what was in the first one
is unchanged. -/
structure Framed (before : Registration) (parent : Scope) (child : ScopeId) (after : Registration) :
    Prop where
  current : before.current? = some parent
  path : after.path = before.path
  fresh : child ∉ before.scopes.keys
  attached : after.scopes.find? parent.id = some (parent.addChild child)
  others : ∀ id ≠ parent.id, ∀ s, before.scopes.find? id = some s → after.scopes.find? id = some s
  steps : before.steps.Within after.steps
  hooks : before.hooks.Within after.hooks
  parameters : ∀ name regex,
    before.parameters.get? name = some regex → after.parameters.get? name = some regex

/-- What is done in an open scope leaves the other scopes and all definitions. -/
structure Confined (owner : ScopeId) (r r' : Registration) : Prop where
  path : r'.path = r.path
  others : ∀ id ≠ owner, ∀ s, r.scopes.find? id = some s → r'.scopes.find? id = some s
  steps : r.steps.Within r'.steps
  hooks : r.hooks.Within r'.hooks
  parameters : ∀ name regex, r.parameters.get? name = some regex → r'.parameters.get? name = some regex

section Refusals

variable {r : Registration} {q : ScopeRequest} {e : ScopeError}

theorem createScope_of_refused {r' : Registration} (h : r.openScope q = (.error e, r'))
    (action : Registration → Except ScopeError Unit × Registration) :
    r.createScope q action = (.error e, r') := by
  rw [createScope, within, h]

theorem createScope_of_opened {id : ScopeId} {r' : Registration} (h : r.openScope q = (.ok id, r'))
    (action : Registration → Except ScopeError Unit × Registration) :
    r.createScope q action = ((action r').1.map fun _ => id, (action r').2.closeScope) := by
  rw [createScope, within, h]

theorem refused_cases {r' : Registration} (h : r.openScope q = (.error e, r')) :
    (∀ id, e ≠ .duplicateId id) ∧ r' = r ∨
      (∃ id, e = .duplicateId id) ∧ r' = { r with supply := (r.supply.draw (.scope q.kind)).2 } := by
  cases hcurrent : r.current? with
  | none =>
    rw [openScope, hcurrent] at h
    cases h
    exact .inl ⟨by rintro id ⟨⟩, rfl⟩
  | some s =>
    cases hfits : q.fitsIn s.kind with
    | false =>
      rw [openScope_of_unfit hcurrent hfits] at h
      cases h
      exact .inl ⟨by rintro id ⟨⟩, rfl⟩
    | true =>
      by_cases hid : (r.newScope q).id ∈ r.scopes.keys
      · rw [openScope_of_taken hcurrent hfits hid] at h
        cases h
        exact .inr ⟨⟨_, rfl⟩, rfl⟩
      · rw [openScope_of_free hcurrent hfits hid] at h
        cases h

theorem atomic (r : Registration) : r.Atomic := by
  constructor
  case unfitScope =>
    intro q kind name parent h action
    rcases refused_cases (Prod.ext h rfl) with ⟨-, hr⟩ | ⟨⟨id, he⟩, -⟩
    · exact createScope_of_refused (Prod.ext h hr) action
    · cases he
  case takenScope =>
    intro q id h action
    rcases refused_cases (Prod.ext h rfl) with ⟨hne, -⟩ | ⟨-, hr⟩
    · exact absurd rfl (hne id)
    · exact createScope_of_refused (Prod.ext h hr) action
  case takenStep =>
    intro keyword pattern options location id h
    cases hpath : r.path with
    | nil => simp [registerStep, hpath] at h
    | cons owner others =>
      by_cases hid : (r.newStep keyword pattern options location).id ∈ r.steps.keys
      · rw [registerStep_of_taken hpath hid, hpath]
      · simp [registerStep_of_free hpath hid] at h
  case takenHook =>
    intro type description options id h
    cases hpath : r.path with
    | nil => simp [registerHook, hpath] at h
    | cons owner others =>
      by_cases hid : (r.newHook type description options).id ∈ r.hooks.keys
      · rw [registerHook_of_taken hpath hid, hpath]
      · simp [registerHook_of_free hpath hid] at h
  case parameter =>
    intro name regex e h
    rw [defineParameter] at h ⊢
    cases hdefine : r.parameters.define name regex with
    | ok parameters =>
      rw [hdefine] at h
      cases h
    | error fault => rfl

end Refusals

namespace Confined

variable {owner : ScopeId} {r r' r'' : Registration}

theorem refl (owner : ScopeId) (r : Registration) : Confined owner r r :=
  ⟨rfl, fun _ _ _ h => h, .refl _, .refl _, fun _ _ h => h⟩

theorem trans (h : Confined owner r r') (h' : Confined owner r' r'') : Confined owner r r'' where
  path := h'.path.trans h.path
  others id hid s hs := h'.others id hid s (h.others id hid s hs)
  steps := h.steps.trans h'.steps
  hooks := h.hooks.trans h'.hooks
  parameters name regex hname := h'.parameters name regex (h.parameters name regex hname)

theorem of_change {others : List ScopeId} (hpath : r.path = owner :: others) (h : r.Change r')
    (hparameters : ∀ name regex,
      r.parameters.get? name = some regex → r'.parameters.get? name = some regex) :
    Confined owner r r' := by
  refine ⟨h.path_eq, fun id hid s hs => ?_, ?_, ?_, hparameters⟩
  · cases h with
    | none => exact hs
    | step owner' d hpath' =>
      obtain ⟨rfl, -⟩ := List.cons.inj (hpath'.symm.trans hpath)
      rw [addStep, Catalogue.find?_modify, if_neg hid, hs]
    | hook owner' d hpath' =>
      obtain ⟨rfl, -⟩ := List.cons.inj (hpath'.symm.trans hpath)
      rw [addHook, Catalogue.find?_modify, if_neg hid, hs]
  · cases h with
    | none => exact .refl _
    | step => exact Catalogue.within_add _ _ _
    | hook => exact .refl _
  · cases h with
    | none => exact .refl _
    | step => exact .refl _
    | hook => exact Catalogue.within_add _ _ _

end Confined

theorem registerStep_parameters (r : Registration) (keyword : StepKeyword) (pattern : Pattern)
    (options : DefinitionOptions) (location : Option Location) :
    (r.registerStep keyword pattern options location).2.parameters = r.parameters := by
  unfold registerStep
  split
  · rfl
  · dsimp only
    split <;> rfl

theorem registerHook_parameters (r : Registration) (type : HookType) (description : Option String)
    (options : DefinitionOptions) : (r.registerHook type description options).2.parameters = r.parameters := by
  unfold registerHook
  split
  · rfl
  · dsimp only
    split <;> rfl

end Registration

theorem Entry.get?_parameters_run (e : Entry) (r : Registration) {name regex : String}
    (h : r.parameters.get? name = some regex) : (e.run r).2.parameters.get? name = some regex := by
  cases e with
  | step keyword written options location =>
    cases hread : written.read with
    | error e =>
      rw [Entry.run, hread]
      exact h
    | ok pattern => rwa [registration_step hread, r.registerStep_parameters]
  | hook type description options => rwa [registration_hook, r.registerHook_parameters]
  | parameter name' regex' =>
    rw [Entry.run, Registration.defineParameter]
    cases hdefine : r.parameters.define name' regex' with
    | ok parameters =>
      obtain ⟨-, -, rfl⟩ := Parameters.define_eq_ok hdefine
      rw [Parameters.get?] at h
      show (r.parameters.entries ++ [(name', regex')]).lookup name = some regex
      rw [List.lookup_append, h, Option.some_or]
    | error fault => exact h
  | defaultMode mode => exact h
  | describe => exact h

namespace Registration

variable {r r' : Registration}

theorem path_openScope (r : Registration) {q : ScopeRequest} {id : ScopeId}
    (h : (r.openScope q).1 = .ok id) : (r.openScope q).2.path = id :: r.path := by
  rcases r.openScope_cases q with ⟨e, supply, ho⟩ | ⟨parent, -, -, -, ho⟩
  · rw [ho] at h
    cases h
  · rw [ho] at h ⊢
    cases h
    rfl

theorem Invariant.id_of_current? (hr : r.Invariant) {owner : ScopeId} {others : List ScopeId} {s : Scope}
    (hpath : r.path = owner :: others) (hs : r.current? = some s) : s.id = owner := by
  rw [current?, hpath, List.head?_cons, Option.bind_some] at hs
  exact (hr.scopes.find?_eq_some_iff.1 hs).2

theorem framed_of_confined (hr : r.Invariant) {q : ScopeRequest} {id : ScopeId}
    (hopen : (r.openScope q).1 = .ok id) (h : Confined id (r.openScope q).2 r') :
    ∃ parent, r.Framed parent id r'.closeScope := by
  obtain ⟨owner, others, parent, hpath, hfind, rfl, hcurrent⟩ := hr.exists_current
  rcases r.openScope_cases q with ⟨e, supply, ho⟩ | ⟨parent', hcurrent', -, hid, ho⟩
  · rw [ho] at hopen
    cases hopen
  obtain rfl := Option.some.inj (hcurrent'.symm.trans hcurrent)
  rw [ho] at hopen h
  obtain rfl := Except.ok.inj hopen
  have hold : ∀ id' s, r.scopes.find? id' = some s → id' ≠ (r.newScope q).id :=
    fun _ _ hs => ne_of_mem_of_not_mem (Catalogue.mem_keys_of_find? hs) hid
  refine ⟨parent', ?_⟩
  constructor
  case current => exact hcurrent
  case path => rw [closeScope, h.path]; rfl
  case fresh => exact hid
  case attached =>
    -- The parent has the new scope since it was opened, and what was done inside left the parent alone.
    refine h.others _ (hold _ _ hfind) _ ?_
    simp [addScope, Catalogue.find?_add, Catalogue.find?_modify, hfind]
  case others =>
    intro id' hne s hs
    refine h.others id' (hold _ _ hs) s ?_
    rw [addScope, Catalogue.find?_add, Catalogue.find?_modify, if_neg hne, hs, Option.some_or]
  case steps => exact h.steps
  case hooks => exact h.hooks
  case parameters => exact h.parameters

theorem Framed.confined {parent : Scope} {child : ScopeId} (h : r.Framed parent child r') :
    Confined parent.id r r' :=
  ⟨h.path, h.others, h.steps, h.hooks, h.parameters⟩

/-- By induction over the operations. The invariant tells that the innermost open scope is found, so a scope
opened in it is attached to it and to no other one. -/
theorem Performs.confined {owner : ScopeId} {others : List ScopeId} (h : r.Performs r')
    (hr : r.Invariant) (hpath : r.path = owner :: others) : r'.Invariant ∧ Confined owner r r' := by
  induction h generalizing owner others with
  | refl r => exact ⟨hr, .refl owner r⟩
  | @entry r r' _ e ih =>
    obtain ⟨hr', h'⟩ := ih hr hpath
    have hchange := e.run_change r'
    exact ⟨hr'.change hchange,
      h'.trans (.of_change (h'.path.trans hpath) hchange fun _ _ => e.get?_parameters_run r')⟩
  | @createScope r r' _ q action _ ih ihaction =>
    obtain ⟨hr', h'⟩ := ih hr hpath
    have hopened := hr'.openScope q
    rcases ho : r'.openScope q with ⟨e | id, opened⟩ <;> rw [ho] at hopened
    · rw [createScope_of_refused ho]
      refine ⟨hopened, h'.trans ?_⟩
      rcases refused_cases ho with ⟨-, rfl⟩ | ⟨-, rfl⟩
      · exact .refl owner _
      · exact ⟨rfl, fun _ _ _ h => h, .refl _, .refl _, fun _ _ h => h⟩
    · have hid : (r'.openScope q).1 = .ok id := by rw [ho]
      have hpath' := r'.path_openScope hid
      rw [createScope_of_opened ho]
      obtain ⟨hinner, hconfined⟩ := ihaction id hid (hr'.openScope q) hpath'
      obtain ⟨parent, hframed⟩ := framed_of_confined hr' hid hconfined
      obtain rfl := hr'.id_of_current? (h'.path.trans hpath) hframed.current
      rw [ho] at hinner hconfined hframed hpath'
      refine ⟨hinner.closeScope hr'.path_ne_nil ?_, h'.trans hframed.confined⟩
      rw [hconfined.path, hpath', List.tail_cons]

end Registration

def Command.act (body : List Command) (failure : Option ScopeError) (r : Registration) :
    Except ScopeError Unit × Registration :=
  (((Command.runAll body r).1.failure.or failure).elim (.ok ()) .error, (Command.runAll body r).2)

theorem Command.registration_scope (label : Nat) (tolerated : Bool) (q : ScopeRequest) (body : List Command)
    (failure : Option ScopeError) (r : Registration) :
    ((Command.scope label tolerated q body failure).run r).2 = (r.createScope q (Command.act body failure)).2 := by
  rcases ho : r.openScope q with ⟨e | id, r'⟩
  · rw [Command.run_of_refused ho, Registration.createScope_of_refused ho]
  · rw [Command.run_of_opened ho, Registration.createScope_of_opened ho]
    rfl

mutual

theorem Command.performs (c : Command) {r r' : Registration} (h : r.Performs r') :
    r.Performs (c.run r').2 := by
  cases c with
  | entry label tolerated e => exact h.entry e
  | scope label tolerated q body failure =>
    rw [Command.registration_scope]
    exact h.createScope q _ fun _ _ => Command.performsAll body (.refl _)

theorem Command.performsAll (cs : List Command) {r r' : Registration} (h : r.Performs r') :
    r.Performs (Command.runAll cs r').2 := by
  cases cs with
  | nil => exact h
  | cons c cs =>
    have hfirst := Command.performs c h
    cases hf : (c.run r').1.failure with
    | some e =>
      rw [Command.runAll_of_failure hf]
      exact hfirst
    | none =>
      rw [Command.registration_of_success hf]
      exact Command.performsAll cs hfirst

end

/-- Wherever a program gets to, operations that are refused leave no trace; and a scope that is opened for an
action adds no more than itself, with what the action puts into it, whatever the action does and however it
ends. -/
theorem Command.points_framed (source : IdSource) (program : List Command) :
    ∀ r ∈ Command.pointsAll program (.start source), r.Atomic ∧
      ∀ q id, (r.openScope q).1 = .ok id → ∀ action,
        (r.openScope q).2.Performs (action (r.openScope q).2).2 →
          (r.createScope q action).1 = (action (r.openScope q).2).1.map (fun _ => id) ∧
            ∃ parent, r.Framed parent id (r.createScope q action).2 := by
  refine fun r hr => ⟨r.atomic, fun q id hopen action haction => ?_⟩
  have hinvariant := Command.invariant_of_mem_points hr
  obtain ⟨-, hconfined⟩ := haction.confined (hinvariant.openScope q) (r.path_openScope hopen)
  rw [Registration.createScope_of_opened (Prod.ext hopen rfl)]
  exact ⟨rfl, Registration.framed_of_confined hinvariant hopen hconfined⟩

def members : List Command :=
  [.scope 5 false (.usual .scenario "Renew") [] none, .entry 6 false (.hook .teardown none {})]

theorem contested_framed :
    ∃ r, r ∈ Command.pointsAll contested
        (.start (.ofList "root" ["shop", "root", "hook", "checkout", "hook"])) ∧
      r.path = [⟨"shop"⟩, ⟨"root"⟩] ∧ r.Atomic ∧
      (r.createScope (.usual .rule "Members") (Command.act members none)).1 = .error (.duplicateId "hook") ∧
      (r.createScope (.usual .rule "Members") (Command.act members none)).2.scopes.size = r.scopes.size + 2 ∧
      ∃ parent, r.Framed parent ⟨"checkout"⟩
        (r.createScope (.usual .rule "Members") (Command.act members none)).2 := by
  have hr := List.mem_of_getElem? (l := Command.pointsAll contested
    (.start (.ofList "root" ["shop", "root", "hook", "checkout", "hook"]))) (i := 5) rfl
  obtain ⟨hatomic, hframed⟩ := Command.points_framed _ _ _ hr
  obtain ⟨hresult, hparent⟩ := hframed (.usual .rule "Members") ⟨"checkout"⟩ rfl (Command.act members none)
    (Command.performsAll members (.refl _))
  exact ⟨_, hr, rfl, hatomic, hresult.trans rfl, rfl, hparent⟩

end FeaturePlan
