import FeaturePlan.Gherkin.Document
import FeaturePlan.Plan.Naming
import FeaturePlan.Scope.Candidate

/-!
Executions, and the plan that holds them: as a tree like the document, as a list in its order, and by
identifier and by qualified name.
-/
namespace FeaturePlan

/-- The row of examples that an execution stands for. -/
structure ExampleData where
  groupId : String
  groupName : String
  groupTags : List String
  /-- The number of the row through all groups, from zero on. -/
  index : Nat
  /-- The cells by column; of columns with one name the last counts. -/
  values : Catalogue String String
deriving DecidableEq, Repr

inductive Origin where
  | scenario (scenario : Gherkin.Scenario)
  | example (row : Gherkin.Example)
deriving DecidableEq, Repr

def Origin.name : Origin → String
  | .scenario s => s.name
  | .example e => e.name

/-- A scenario, or an example of an outline, with its scope and the definitions of its steps. -/
structure Execution where
  id : String
  keyword : String
  qualifiedName : String
  tags : List String
  candidate : Candidate
  origin : Origin
  /-- The steps of the backgrounds, then its own. -/
  gherkinSteps : List Gherkin.Step
  /-- The definition of each of these steps. -/
  steps : List StepDefinition
  exampleData : Option ExampleData
deriving DecidableEq, Repr

namespace Execution

def name (e : Execution) : String := e.origin.name

def scope (e : Execution) : Scope := e.candidate.scope

def isExample (e : Execution) : Bool := e.exampleData.isSome

end Execution

namespace Plan

structure OutlineNode where
  keyword : String
  name : String
  tags : List String
  scope : Scope
  examples : List Execution
deriving DecidableEq, Repr

inductive Node where
  | scenario (execution : Execution)
  | outline (outline : OutlineNode)
deriving DecidableEq, Repr

/-- A rule of a plan. One without scenarios needs no scope. -/
structure RuleNode where
  keyword : String
  name : String
  tags : List String
  scope : Option Scope
  nodes : List Node
deriving DecidableEq, Repr

inductive Element where
  | node (node : Node)
  | rule (rule : RuleNode)
deriving DecidableEq, Repr

structure FeatureNode where
  keyword : String
  name : String
  tags : List String
  scope : Scope
  elements : List Element
deriving DecidableEq, Repr

def Node.executions : Node → List Execution
  | .scenario e => [e]
  | .outline o => o.examples

def Element.executions : Element → List Execution
  | .node n => n.executions
  | .rule r => r.nodes.flatMap Node.executions

def FeatureNode.executions (f : FeatureNode) : List Execution := f.elements.flatMap Element.executions

end Plan

structure TestPlan where
  feature : Plan.FeatureNode
  executions : List Execution
  byId : Catalogue String Execution
  byName : Catalogue String Execution
deriving DecidableEq, Repr

namespace TestPlan

def size (p : TestPlan) : Nat := p.executions.length

def isEmpty (p : TestPlan) : Bool := p.executions.isEmpty

def find? (p : TestPlan) (id : String) : Option Execution := p.byId.find? id

def findByName? (p : TestPlan) (name : String) : Option Execution := p.byName.find? name

end TestPlan
end FeaturePlan
