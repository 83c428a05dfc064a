import FeaturePlan.Catalogue
import FeaturePlan.Scope.Error
import FeaturePlan.Scope.Node
import FeaturePlan.Step.Definition

/-!
Registration of scopes and definitions. Scopes are opened inside one another, and whatever is
registered is attached to the innermost open one. A registration that is refused leaves no trace but
the identifier drawn for it.
-/
namespace FeaturePlan

/-- What has been registered so far. -/
structure Registration where
  supply : IdSupply
  /-- The mode of what asks for none. -/
  defaultMode : Mode
  /-- The open scopes, the innermost first and the root last. -/
  path : List ScopeId
  root : ScopeId
  scopes : Catalogue ScopeId Scope
  steps : Catalogue StepId StepDefinition
  hooks : Catalogue HookId HookDefinition
  parameters : Parameters

/-- What is asked for when a scope is opened. The kinds of scopes that may contain it are listed,
unless any may. -/
structure ScopeRequest where
  kind : ScopeKind
  name : String
  metadata : ScopeMetadata := {}
  allowedParents : Option (List ScopeKind) := none
deriving DecidableEq, Repr

def ScopeRequest.usual (kind : ScopeKind) (name : String) (metadata : ScopeMetadata := {}) :
    ScopeRequest :=
  ⟨kind, name, metadata, some kind.usualParents⟩

def ScopeRequest.fitsIn (q : ScopeRequest) (parent : ScopeKind) : Bool :=
  q.kind != .root && q.allowedParents.all (·.contains parent)

namespace Registration

def start (source : IdSource) : Registration :=
  let (id, supply) := ({ source } : IdSupply).draw (.scope .root)
  let root : ScopeId := ⟨id⟩
  { supply
    defaultMode := .standard
    path := [root]
    root
    scopes := ({} : Catalogue ScopeId Scope).add root ⟨root, .root, "", .standard, {}, [], [], []⟩
    steps := {}
    hooks := {}
    parameters := {} }

def current? (r : Registration) : Option Scope := r.path.head?.bind r.scopes.find?

def openScope (r : Registration) (q : ScopeRequest) : Except ScopeError ScopeId × Registration :=
  match r.current? with
  | none => (.error (.emptyStack (q.kind.label ++ " \"" ++ q.name ++ "\"")), r)
  | some parent =>
    if !q.fitsIn parent.kind then
      (.error (.invalidParent q.kind q.name parent.kind), r)
    else
      let (text, supply) := r.supply.draw (.scope q.kind)
      let id : ScopeId := ⟨text⟩
      if r.scopes.contains id then (.error (.duplicateId text), { r with supply })
      else
        let scope : Scope :=
          ⟨id, q.kind, q.name, q.metadata.resolveMode r.defaultMode, q.metadata.details, [], [], []⟩
        let withChild := r.scopes.modify parent.id fun s => { s with children := s.children ++ [id] }
        (.ok id, { r with supply, path := id :: r.path, scopes := withChild.add id scope })

def closeScope (r : Registration) : Registration := { r with path := r.path.tail }

/-- Opens a scope, acts, and closes it again whatever comes of the action. -/
def within {α : Type} (r : Registration) (q : ScopeRequest) (action : Registration → α × Registration) :
    Except ScopeError (ScopeId × α) × Registration :=
  match r.openScope q with
  | (.error e, r) => (.error e, r)
  | (.ok id, r) =>
    let (result, r) := action r
    (.ok (id, result), r.closeScope)

/-- Opens a scope for an action that may fail. The scope stays even if the action fails. -/
def createScope (r : Registration) (q : ScopeRequest)
    (action : Registration → Except ScopeError Unit × Registration) :
    Except ScopeError ScopeId × Registration :=
  match r.within q action with
  | (.error e, r) => (.error e, r)
  | (.ok (id, result), r) => (result.map fun _ => id, r)

def registerStep (r : Registration) (keyword : StepKeyword) (pattern : Pattern)
    (options : DefinitionOptions := {}) (location : Option Location := none) :
    Except ScopeError StepId × Registration :=
  match r.path with
  | [] => (.error (.emptyStack ("step `" ++ pattern.source ++ "`")), r)
  | owner :: _ =>
    let (text, supply) := r.supply.draw .step
    let id : StepId := ⟨text⟩
    if r.steps.contains id then (.error (.duplicateId text), { r with supply })
    else
      let definition : StepDefinition :=
        ⟨id, keyword, pattern, options.mode.getD r.defaultMode, options.details, location⟩
      (.ok id, { r with
        supply
        steps := r.steps.add id definition
        scopes := r.scopes.modify owner fun s => { s with steps := s.steps ++ [id] } })

def registerHook (r : Registration) (type : HookType) (description : Option String := none)
    (options : DefinitionOptions := {}) : Except ScopeError HookId × Registration :=
  match r.path with
  | [] => (.error (.emptyStack (type.label ++ " hook")), r)
  | owner :: _ =>
    let (text, supply) := r.supply.draw .hook
    let id : HookId := ⟨text⟩
    if r.hooks.contains id then (.error (.duplicateId text), { r with supply })
    else
      let definition : HookDefinition :=
        ⟨id, type, description, options.mode.getD r.defaultMode, options.details⟩
      (.ok id, { r with
        supply
        hooks := r.hooks.add id definition
        scopes := r.scopes.modify owner fun s => { s with hooks := s.hooks ++ [id] } })

def defineParameter (r : Registration) (name regex : String) :
    Except ScopeError Unit × Registration :=
  match r.parameters.define name regex with
  | .ok parameters => (.ok (), { r with parameters })
  | .error fault => (.error (.invalidParameter name fault.message), r)

/-- Changes the mode of what asks for none from here on. -/
def setDefaultMode (r : Registration) (mode : Mode) : Registration := { r with defaultMode := mode }

end Registration
end FeaturePlan
