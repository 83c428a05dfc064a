import FeaturePlan.Proofs.Catalogue
import FeaturePlan.Scope.Program

/-!
What the operations on a registration do. Each of them is refused, and then at most an identifier is
lost, or it adds what was asked for under an identifier that was free and attaches it to the innermost
open scope.
-/
namespace FeaturePlan

def Scope.addChild (s : Scope) (id : ScopeId) : Scope := { s with children := s.children ++ [id] }

def Scope.addStep (s : Scope) (id : StepId) : Scope := { s with steps := s.steps ++ [id] }

def Scope.addHook (s : Scope) (id : HookId) : Scope := { s with hooks := s.hooks ++ [id] }

namespace Registration

def newScope (r : Registration) (q : ScopeRequest) : Scope where
  id := ⟨(r.supply.draw (.scope q.kind)).1⟩
  kind := q.kind
  name := q.name
  mode := q.metadata.resolveMode r.defaultMode
  details := q.metadata.details

def newStep (r : Registration) (keyword : StepKeyword) (pattern : Pattern) (options : DefinitionOptions)
    (location : Option Location) : StepDefinition where
  id := ⟨(r.supply.draw .step).1⟩
  keyword
  pattern
  mode := options.mode.getD r.defaultMode
  details := options.details
  location

def newHook (r : Registration) (type : HookType) (description : Option String)
    (options : DefinitionOptions) : HookDefinition where
  id := ⟨(r.supply.draw .hook).1⟩
  type
  description
  mode := options.mode.getD r.defaultMode
  details := options.details

def addScope (r : Registration) (parent : ScopeId) (s : Scope) : Registration :=
  { r with
    supply := (r.supply.draw (.scope s.kind)).2
    path := s.id :: r.path
    scopes := (r.scopes.modify parent (·.addChild s.id)).add s.id s }

def addStep (r : Registration) (owner : ScopeId) (d : StepDefinition) : Registration :=
  { r with
    supply := (r.supply.draw .step).2
    steps := r.steps.add d.id d
    scopes := r.scopes.modify owner (·.addStep d.id) }

def addHook (r : Registration) (owner : ScopeId) (d : HookDefinition) : Registration :=
  { r with
    supply := (r.supply.draw .hook).2
    hooks := r.hooks.add d.id d
    scopes := r.scopes.modify owner (·.addHook d.id) }

section Scopes

variable {r : Registration} {q : ScopeRequest} {parent : Scope}

theorem openScope_of_unfit (hcurrent : r.current? = some parent) (hfits : q.fitsIn parent.kind = false) :
    r.openScope q = (.error (.invalidParent q.kind q.name parent.kind), r) := by
  simp [openScope, hcurrent, hfits]

theorem openScope_of_taken (hcurrent : r.current? = some parent) (hfits : q.fitsIn parent.kind = true)
    (hid : (r.newScope q).id ∈ r.scopes.keys) :
    r.openScope q = (.error (.duplicateId (r.newScope q).id.text),
      { r with supply := (r.supply.draw (.scope q.kind)).2 }) := by
  rw [← Catalogue.contains_eq_true_iff, newScope] at hid
  simp [openScope, hcurrent, hfits, hid, newScope]

theorem openScope_of_free (hcurrent : r.current? = some parent) (hfits : q.fitsIn parent.kind = true)
    (hid : (r.newScope q).id ∉ r.scopes.keys) :
    r.openScope q = (.ok (r.newScope q).id, r.addScope parent.id (r.newScope q)) := by
  rw [← Catalogue.contains_eq_false_iff, newScope] at hid
  simp [openScope, hcurrent, hfits, hid, newScope, addScope, Scope.addChild]

theorem openScope_cases (r : Registration) (q : ScopeRequest) :
    (∃ e supply, r.openScope q = (.error e, { r with supply })) ∨
      ∃ parent, r.current? = some parent ∧ q.fitsIn parent.kind = true ∧
        (r.newScope q).id ∉ r.scopes.keys ∧
        r.openScope q = (.ok (r.newScope q).id, r.addScope parent.id (r.newScope q)) := by
  cases hcurrent : r.current? with
  | none => exact .inl ⟨_, r.supply, by rw [openScope, hcurrent]⟩
  | some parent =>
    cases hfits : q.fitsIn parent.kind with
    | false => exact .inl ⟨_, r.supply, openScope_of_unfit hcurrent hfits⟩
    | true =>
      by_cases hid : (r.newScope q).id ∈ r.scopes.keys
      · exact .inl ⟨_, _, openScope_of_taken hcurrent hfits hid⟩
      · exact .inr ⟨parent, rfl, hfits, hid, openScope_of_free hcurrent hfits hid⟩

end Scopes

section Definitions

variable {r : Registration} {owner : ScopeId} {others : List ScopeId}

theorem registerStep_of_free {keyword : StepKeyword} {pattern : Pattern} {options : DefinitionOptions}
    {location : Option Location} (hpath : r.path = owner :: others)
    (hid : (r.newStep keyword pattern options location).id ∉ r.steps.keys) :
    r.registerStep keyword pattern options location =
      (.ok (r.newStep keyword pattern options location).id,
        r.addStep owner (r.newStep keyword pattern options location)) := by
  rw [← Catalogue.contains_eq_false_iff, newStep] at hid
  simp [registerStep, hpath, hid, newStep, addStep, Scope.addStep]

theorem registerHook_of_free {type : HookType} {description : Option String} {options : DefinitionOptions}
    (hpath : r.path = owner :: others) (hid : (r.newHook type description options).id ∉ r.hooks.keys) :
    r.registerHook type description options =
      (.ok (r.newHook type description options).id,
        r.addHook owner (r.newHook type description options)) := by
  rw [← Catalogue.contains_eq_false_iff, newHook] at hid
  simp [registerHook, hpath, hid, newHook, addHook, Scope.addHook]

theorem registerStep_of_taken {keyword : StepKeyword} {pattern : Pattern} {options : DefinitionOptions}
    {location : Option Location} (hpath : r.path = owner :: others)
    (hid : (r.newStep keyword pattern options location).id ∈ r.steps.keys) :
    r.registerStep keyword pattern options location =
      (.error (.duplicateId (r.newStep keyword pattern options location).id.text),
        { r with supply := (r.supply.draw .step).2 }) := by
  rw [← Catalogue.contains_eq_true_iff, newStep] at hid
  simp [registerStep, hpath, hid, newStep]

theorem registerHook_of_taken {type : HookType} {description : Option String} {options : DefinitionOptions}
    (hpath : r.path = owner :: others) (hid : (r.newHook type description options).id ∈ r.hooks.keys) :
    r.registerHook type description options =
      (.error (.duplicateId (r.newHook type description options).id.text),
        { r with supply := (r.supply.draw .hook).2 }) := by
  rw [← Catalogue.contains_eq_true_iff, newHook] at hid
  simp [registerHook, hpath, hid, newHook]

end Definitions

/-- What a registration other than that of a scope may do. -/
inductive Change (r : Registration) : Registration → Prop
  | none (supply : IdSupply) (defaultMode : Mode) (parameters : Parameters)
      (hsupply : supply = r.supply ∨ ∃ kind, supply = (r.supply.draw kind).2) :
      Change r { r with supply, defaultMode, parameters }
  | step (owner : ScopeId) {others : List ScopeId} (d : StepDefinition)
      (hpath : r.path = owner :: others) (hid : d.id ∉ r.steps.keys)
      (hdrawn : d.id.text = (r.supply.draw .step).1) : Change r (r.addStep owner d)
  | hook (owner : ScopeId) {others : List ScopeId} (d : HookDefinition)
      (hpath : r.path = owner :: others) (hid : d.id ∉ r.hooks.keys)
      (hdrawn : d.id.text = (r.supply.draw .hook).1) : Change r (r.addHook owner d)

theorem change_registerStep (r : Registration) (keyword : StepKeyword) (pattern : Pattern)
    (options : DefinitionOptions) (location : Option Location) :
    r.Change (r.registerStep keyword pattern options location).2 := by
  cases hpath : r.path with
  | nil =>
    rw [registerStep, hpath]
    exact .none r.supply r.defaultMode r.parameters (.inl rfl)
  | cons owner others =>
    by_cases hid : (r.newStep keyword pattern options location).id ∈ r.steps.keys
    · rw [registerStep_of_taken hpath hid]
      exact .none _ r.defaultMode r.parameters (.inr ⟨_, rfl⟩)
    · rw [registerStep_of_free hpath hid]
      exact .step owner _ hpath hid rfl

theorem change_registerHook (r : Registration) (type : HookType) (description : Option String)
    (options : DefinitionOptions) : r.Change (r.registerHook type description options).2 := by
  cases hpath : r.path with
  | nil =>
    rw [registerHook, hpath]
    exact .none r.supply r.defaultMode r.parameters (.inl rfl)
  | cons owner others =>
    by_cases hid : (r.newHook type description options).id ∈ r.hooks.keys
    · rw [registerHook_of_taken hpath hid]
      exact .none _ r.defaultMode r.parameters (.inr ⟨_, rfl⟩)
    · rw [registerHook_of_free hpath hid]
      exact .hook owner _ hpath hid rfl

theorem Change.path_eq {r r' : Registration} (h : r.Change r') : r'.path = r.path := by
  cases h <;> rfl

end Registration

theorem Entry.registration_step {keyword : StepKeyword} {written : WrittenPattern} {pattern : Pattern}
    (hread : written.read = .ok pattern) (options : DefinitionOptions) (location : Option Location)
    (r : Registration) : ((Entry.step keyword written options location).run r).2 =
      (r.registerStep keyword pattern options location).2 := by
  rw [Entry.run, hread]
  dsimp only
  rcases r.registerStep keyword pattern options location with ⟨_ | _, r'⟩ <;> rfl

theorem Entry.registration_hook (type : HookType) (description : Option String) (options : DefinitionOptions)
    (r : Registration) : ((Entry.hook type description options).run r).2 =
      (r.registerHook type description options).2 := by
  rw [Entry.run]
  rcases r.registerHook type description options with ⟨_ | _, r'⟩ <;> rfl

open Registration in
theorem Entry.run_change (e : Entry) (r : Registration) : r.Change (e.run r).2 := by
  cases e with
  | step keyword written options location =>
    cases hread : written.read with
    | error e =>
      rw [Entry.run, hread]
      exact .none r.supply r.defaultMode r.parameters (.inl rfl)
    | ok pattern =>
      rw [registration_step hread]
      exact change_registerStep r keyword pattern options location
  | hook type description options =>
    rw [registration_hook]
    exact change_registerHook r type description options
  | parameter name regex =>
    rw [Entry.run, defineParameter]
    cases r.parameters.define name regex with
    | ok parameters => exact .none r.supply r.defaultMode parameters (.inl rfl)
    | error fault => exact .none r.supply r.defaultMode r.parameters (.inl rfl)
  | defaultMode mode => exact .none r.supply mode r.parameters (.inl rfl)
  | describe => exact .none r.supply r.defaultMode r.parameters (.inl rfl)

end FeaturePlan
