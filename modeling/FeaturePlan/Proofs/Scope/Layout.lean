import FeaturePlan.Scope.Blueprint
import FeaturePlan.Scope.Program

/-!
Layouts: what a program of registrations lays out, by recursion over the program. A scope is laid out where
the program opens it, with what the commands directly inside it lay out up to the first failure that is not
tolerated. Nothing is looked up and nothing is open: all that a command depends on is the kind of the scope
around it and what all commands share.
-/
namespace FeaturePlan

/-- A scope with all that is laid out in it, in the order of the program. -/
inductive Layout where
  | scope (id : ScopeId) (kind : ScopeKind) (name : String) (mode : Mode) (details : ScopeDetails)
      (steps : List StepDefinition) (hooks : List HookDefinition) (children : List Layout)
deriving Repr

structure Surroundings where
  supply : IdSupply
  /-- The mode of what asks for none. -/
  defaultMode : Mode
  parameters : Parameters

/-- A scope takes the mode that it asks for, else that of its variant, else the default. -/
def Surroundings.scopeMode (s : Surroundings) (m : ScopeMetadata) : Mode :=
  match m.mode, m.variant with
  | some own, _ => own
  | none, some variant => variant
  | none, none => s.defaultMode

def Surroundings.definitionMode (s : Surroundings) (options : DefinitionOptions) : Mode :=
  match options.mode with
  | some own => own
  | none => s.defaultMode

/-- What commands lay out in the scope around them, and the failure that ended them. -/
structure Contribution where
  steps : List StepDefinition := []
  hooks : List HookDefinition := []
  children : List Layout := []
  failure : Option ScopeError := none

def Contribution.andThen (first rest : Contribution) : Contribution where
  steps := first.steps ++ rest.steps
  hooks := first.hooks ++ rest.hooks
  children := first.children ++ rest.children
  failure := rest.failure

/-- A failure that is tolerated ends nothing. -/
def Contribution.tolerate (c : Contribution) (tolerated : Bool) : Contribution :=
  { c with failure := if tolerated then none else c.failure }

/-- A broken pattern is not laid out, and that is no failure. -/
def Entry.layOut : Entry → Surroundings → Contribution × Surroundings
  | .step keyword pattern options location, s =>
    match pattern.read with
    | .error _ => ({}, s)
    | .ok pattern =>
      let (id, supply) := s.supply.draw .step
      ({ steps := [⟨⟨id⟩, keyword, pattern, s.definitionMode options, options.details, location⟩] },
        { s with supply })
  | .hook type description options, s =>
    let (id, supply) := s.supply.draw .hook
    ({ hooks := [⟨⟨id⟩, type, description, s.definitionMode options, options.details⟩] },
      { s with supply })
  | .parameter name regex, s =>
    match s.parameters.define name regex with
    | .ok parameters => ({}, { s with parameters })
    | .error fault => ({ failure := some (.invalidParameter name fault.message) }, s)
  | .defaultMode mode, s => ({}, { s with defaultMode := mode })
  | .describe, s => ({}, s)

mutual

/-- A scope is laid out if it may stand in the scope around it, even if the commands inside it fail. -/
def Command.layOut (around : ScopeKind) : Command → Surroundings → Contribution × Surroundings
  | .entry _ tolerated e, s =>
    let (c, s) := e.layOut s
    (c.tolerate tolerated, s)
  | .scope _ tolerated q body failure, s =>
    if q.kind ≠ .root ∧ q.allowedParents.all (·.contains around) then
      let (id, supply) := s.supply.draw (.scope q.kind)
      let mode := s.scopeMode q.metadata
      let (inner, s) := Command.layOutAll q.kind body { s with supply }
      let child := Layout.scope ⟨id⟩ q.kind q.name mode q.metadata.details inner.steps inner.hooks
        inner.children
      (({ children := [child], failure := inner.failure.or failure } : Contribution).tolerate tolerated, s)
    else
      (({ failure := some (.invalidParent q.kind q.name around) } : Contribution).tolerate tolerated, s)

def Command.layOutAll (around : ScopeKind) : List Command → Surroundings → Contribution × Surroundings
  | [], s => ({}, s)
  | c :: cs, s =>
    let (first, s) := c.layOut around s
    match first.failure with
    | some _ => (first, s)
    | none =>
      let (rest, s) := Command.layOutAll around cs s
      (first.andThen rest, s)

end

def Surroundings.start (source : IdSource) : Surroundings :=
  ⟨(({ source } : IdSupply).draw (.scope .root)).2, .standard, {}⟩

def Layout.ofProgram (source : IdSource) (program : List Command) : Layout :=
  let inner := (Command.layOutAll .root program (.start source)).1
  .scope ⟨(({ source } : IdSupply).draw (.scope .root)).1⟩ .root "" .standard {} inner.steps inner.hooks
    inner.children

mutual

def ScopeTree.layout (b : Blueprint) : ScopeTree → Layout
  | .node s cs =>
    .scope s.id s.kind s.name s.mode s.details (b.stepsOf s) (b.hooksOf s) (ScopeTree.layoutAll b cs)

def ScopeTree.layoutAll (b : Blueprint) : List ScopeTree → List Layout
  | [] => []
  | t :: ts => t.layout b :: ScopeTree.layoutAll b ts

end

def Blueprint.layout (b : Blueprint) : Layout := b.tree.layout b

end FeaturePlan
