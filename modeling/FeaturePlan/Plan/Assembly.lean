import FeaturePlan.Plan.Error
import FeaturePlan.Plan.Execution
import FeaturePlan.Plan.Queues
import FeaturePlan.Step.Lookup
import FeaturePlan.Text.Blank

/-!
Assembling a plan. The nodes of a document are taken in order, and each is paired with the oldest
candidate that still waits under its kind, canonical name and rule; so nodes of one name are paired by
position. Whatever waits in the end has no place in the document.
-/
namespace FeaturePlan
namespace Plan

/-- What a candidate waits under. -/
structure PairKey where
  kind : ScopeKind
  /-- In canonical form. -/
  name : String
  rule : Option ScopeId
deriving DecidableEq, Repr

def PairKey.of (kind : ScopeKind) (name : String) (rule : Option ScopeId) : PairKey :=
  ⟨kind, Text.canonical name, rule⟩

def PairKey.ofCandidate (c : Candidate) : PairKey :=
  .of c.scope.kind c.scope.name (c.rule.map Scope.id)

/-- The rule scopes of candidates, each where it is first mentioned. The scopes seen before are given
by their identifiers. -/
def distinctRules (seen : List ScopeId) : List Candidate → List Scope
  | [] => []
  | c :: cs =>
    match c.rule with
    | none => distinctRules seen cs
    | some r => if r.id ∈ seen then distinctRules seen cs else r :: distinctRules (r.id :: seen) cs

/-- What a plan is assembled from: a document, a feature scope, the candidates inside it, the parameter
types, and the number of suggestions for a step without a definition. -/
structure Materials where
  document : Gherkin.Document
  feature : Scope
  candidates : List Candidate
  parameters : Parameters
  limit : Nat := Lookup.defaultLimit

def Materials.ofFeature (document : Gherkin.Document) (feature : Scope) (candidates : List Candidate)
    (parameters : Parameters) (limit : Nat := Lookup.defaultLimit) : Materials :=
  ⟨document, feature, candidates.filter (·.feature.id = feature.id), parameters, limit⟩

/-- What is still to be paired, and the executions so far. -/
structure Assembly where
  candidates : Queues PairKey Candidate := {}
  rules : Queues String Scope := {}
  executions : List Execution := []
  byId : Catalogue String Execution := {}
  byName : Catalogue String Execution := {}

def Assembly.start (candidates : List Candidate) : Assembly where
  candidates := .ofList PairKey.ofCandidate candidates
  rules := .ofList (fun r => Text.canonical r.name) (distinctRules [] candidates)

abbrev Assembling := StateT Assembly (Matching PlanError)

structure PairedRule where
  rule : Gherkin.Rule
  scope : Scope

def takeCandidate (m : Materials) (kind : ScopeKind) (name : String) (rule : Option PairedRule) :
    Assembling Candidate := do
  let s ← get
  let (found, candidates) := s.candidates.take (.of kind name (rule.map (·.scope.id)))
  match found with
  | some c =>
    set { s with candidates }
    return c
  | none =>
    throw (.pairing (.missingScope kind name (rule.map (·.rule.name)) m.document.name))

/-- The steps of the backgrounds of the feature and of a rule, and then the given ones. -/
def withBackgrounds (m : Materials) (rule : Option PairedRule) (steps : List Gherkin.Step) :
    List Gherkin.Step :=
  (m.document.background.map (·.steps)).getD [] ++
    ((rule.bind (·.rule.background)).map (·.steps)).getD [] ++ steps

def resolveAll (m : Materials) (c : Candidate) (steps : List Gherkin.Step) (ctx : Lookup.Context) :
    Matching StepError (List StepDefinition) :=
  steps.mapM (Lookup.resolve m.parameters c.steps m.limit ctx)

def resolveSteps (m : Materials) (c : Candidate) (steps : List Gherkin.Step) (ctx : Lookup.Context) :
    Assembling (List StepDefinition) :=
  StateT.lift ((resolveAll m c steps ctx).adapt PlanError.step)

def qualifiedName (m : Materials) (rule : Option PairedRule) (keyword name id : String) : String :=
  joinSegments (
    [segment m.document.keyword m.document.name m.feature.id.text] ++
    (rule.map fun r => segment r.rule.keyword r.rule.name r.scope.id.text).toList ++
    [segment keyword name id])

/-- Adds an execution, whose identity nobody else may have. -/
def register (e : Execution) : Assembling Unit := do
  let s ← get
  if s.byId.contains e.id then throw (.identity (.duplicateId e.id))
  if s.byName.contains e.qualifiedName then throw (.identity (.duplicateName e.qualifiedName))
  set { s with
    executions := s.executions ++ [e]
    byId := s.byId.add e.id e
    byName := s.byName.add e.qualifiedName e }

def ruleTags (rule : Option PairedRule) : List String := (rule.map (·.rule.tags)).getD []

def assembleScenario (m : Materials) (rule : Option PairedRule) (s : Gherkin.Scenario) :
    Assembling Execution := do
  let c ← takeCandidate m .scenario s.name rule
  let gherkinSteps := withBackgrounds m rule s.steps
  let steps ← resolveSteps m c gherkinSteps
    { feature := m.document.name, rule := rule.map (·.rule.name), scenario := s.name }
  let id := c.id.text
  let e : Execution := {
    id
    keyword := s.keyword
    qualifiedName := qualifiedName m rule s.keyword s.name id
    tags := mergeTags [m.document.tags, ruleTags rule, s.tags, c.scope.details.tags]
    candidate := c
    origin := .scenario s
    gherkinSteps
    steps
    exampleData := none }
  register e
  return e

/-- The cells of a row by column. Cells without a column and columns without a cell are left out, and
of columns with one name the last counts. -/
def rowValues (header row : List String) : Catalogue String String :=
  (header.zip row).foldl (fun values (column, cell) => values.put column cell) {}

/-- The examples of a group in order of their rows, each with its row of the table. -/
def groupExamples (o : Gherkin.Outline) (g : Gherkin.ExampleGroup) :
    List (Gherkin.Example × List String) :=
  let examples := (o.examples.filter (·.groupId = g.id)).mergeSort fun a b => a.index ≤ b.index
  examples.mapIdx fun position e => (e, (g.rows[position]?).getD [])

def assembleExample (m : Materials) (rule : Option PairedRule) (o : Gherkin.Outline) (c : Candidate)
    (g : Gherkin.ExampleGroup) (row : Gherkin.Example) (cells : List String) :
    Assembling Execution := do
  let gherkinSteps := withBackgrounds m rule row.steps
  let steps ← resolveSteps m c gherkinSteps
    { feature := m.document.name, rule := rule.map (·.rule.name), outline := some o.name
      scenario := row.name }
  let id := exampleId c.id.text row.index
  let e : Execution := {
    id
    keyword := o.keyword
    qualifiedName := qualifiedName m rule o.keyword row.name id
    tags := mergeTags
      [m.document.tags, ruleTags rule, o.tags, g.tags, row.tags, c.scope.details.tags]
    candidate := c
    origin := .example row
    gherkinSteps
    steps
    exampleData := some {
      groupId := g.id
      groupName := g.name
      groupTags := g.tags
      index := row.index
      values := rowValues g.header cells } }
  register e
  return e

def assembleOutline (m : Materials) (rule : Option PairedRule) (o : Gherkin.Outline) :
    Assembling OutlineNode := do
  let c ← takeCandidate m .outline o.name rule
  let examples ← o.groups.mapM fun g =>
    (groupExamples o g).mapM fun (row, cells) => assembleExample m rule o c g row cells
  return ⟨o.keyword, o.name, o.tags, c.scope, examples.flatten⟩

def assembleNode (m : Materials) (rule : Option PairedRule) : Gherkin.Node → Assembling Node
  | .scenario s => .scenario <$> assembleScenario m rule s
  | .outline o => .outline <$> assembleOutline m rule o

/-- Takes the scope that a rule is paired with. A rule without scenarios needs none. -/
def takeRule (m : Materials) (r : Gherkin.Rule) : Assembling (Option Scope) := do
  let s ← get
  let (found, rules) := s.rules.take (Text.canonical r.name)
  match found with
  | some scope =>
    set { s with rules }
    return some scope
  | none =>
    if r.nodes.isEmpty then return none
    else throw (.pairing (.missingRule r.name m.document.name))

def assembleRule (m : Materials) (r : Gherkin.Rule) : Assembling RuleNode := do
  let scope ← takeRule m r
  let nodes ← match scope with
    | some scope => r.nodes.mapM (assembleNode m (some ⟨r, scope⟩))
    | none => pure []
  return ⟨r.keyword, r.name, r.tags, scope, nodes⟩

def assembleElement (m : Materials) : Gherkin.Element → Assembling Element
  | .node n => .node <$> assembleNode m none n
  | .rule r => .rule <$> assembleRule m r

/-- The plan of a document. All candidates have to find their place in it. -/
def assemble (m : Materials) : Matching PlanError TestPlan := do
  let (elements, s) ← (m.document.elements.mapM (assembleElement m)).run (.start m.candidates)
  let leftovers := s.candidates.leftovers
  if !leftovers.isEmpty then throw (.pairing (.unmatched (leftovers.map (·.scope.describe))))
  return {
    feature := ⟨m.document.keyword, m.document.name, m.document.tags, m.feature, elements⟩
    executions := s.executions
    byId := s.byId
    byName := s.byName }

/-- The plan of a document against the first feature scope of its name. -/
def ofDocument (limit : Nat) (document : Gherkin.Document) (b : Blueprint) :
    Matching PlanError TestPlan := do
  let candidates ← match b.candidates with
    | .ok cs => pure cs
    | .error e => throw (.scope e)
  let name := Text.canonical document.name
  match (b.children b.root).find? fun s => s.kind = .feature && Text.canonical s.name = name with
  | some feature => assemble (.ofFeature document feature candidates b.parameters limit)
  | none => throw (.pairing (.missingFeature document.name))

end Plan
end FeaturePlan
