import FeaturePlan.Step.Keyword

/-!
Documents: a feature with its rules, scenarios and outlines in the order of their lines, every outline
with the concrete scenarios its examples make of it.
-/
namespace FeaturePlan
namespace Gherkin

structure Step where
  /-- As it is written. -/
  keyword : String
  /-- A conjunction has the type of the step before it. -/
  type : StepType
  /-- Whether the keyword is `And`, `But` or an asterisk. -/
  conjunction : Bool
  text : String
  docString : Option String := none
  table : Option (List (List String)) := none
  line : Nat
deriving DecidableEq, Repr, Inhabited

def Step.describe (s : Step) : String := s.keyword ++ " " ++ s.text

structure Background where
  keyword : String
  steps : List Step
deriving DecidableEq, Repr, Inhabited

structure Scenario where
  keyword : String
  name : String
  tags : List String
  steps : List Step
  line : Nat
deriving DecidableEq, Repr, Inhabited

structure ExampleGroup where
  /-- No two groups of an outline have one identifier. -/
  id : String
  keyword : String
  name : String
  tags : List String
  header : List String
  rows : List (List String)
deriving DecidableEq, Repr, Inhabited

/-- What a row of examples makes of an outline. -/
structure Example where
  /-- The number of the row through all groups, from zero on. -/
  index : Nat
  groupId : String
  name : String
  tags : List String
  steps : List Step
deriving DecidableEq, Repr, Inhabited

structure Outline where
  keyword : String
  name : String
  tags : List String
  /-- The steps with their placeholders. -/
  steps : List Step
  groups : List ExampleGroup
  examples : List Example
  line : Nat
deriving DecidableEq, Repr, Inhabited

/-- What stands in a feature or in a rule. -/
inductive Node where
  | scenario (scenario : Scenario)
  | outline (outline : Outline)
deriving DecidableEq, Repr, Inhabited

structure Rule where
  keyword : String
  name : String
  tags : List String
  background : Option Background
  nodes : List Node
deriving DecidableEq, Repr, Inhabited

inductive Element where
  | node (node : Node)
  | rule (rule : Rule)
deriving DecidableEq, Repr, Inhabited

structure Document where
  keyword : String
  name : String
  description : Option String
  tags : List String
  background : Option Background
  elements : List Element
  /-- The file that the document was read from. -/
  path : Option String
deriving DecidableEq, Repr, Inhabited

def Node.executionCount : Node → Nat
  | .scenario _ => 1
  | .outline o => o.examples.length

def Element.executionCount : Element → Nat
  | .node n => n.executionCount
  | .rule r => r.nodes.foldr (fun n count => n.executionCount + count) 0

def Document.executionCount (d : Document) : Nat :=
  d.elements.foldr (fun e count => e.executionCount + count) 0

end Gherkin
end FeaturePlan
