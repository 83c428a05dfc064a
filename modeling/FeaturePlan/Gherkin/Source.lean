import FeaturePlan.Step.Keyword

/-!
A feature as it is written: scenarios and rules apart, examples as tables, every part with the line of
its keyword.
-/
namespace FeaturePlan
namespace Gherkin
namespace Source

structure Step where
  /-- With the space behind it. -/
  keyword : String
  type : StepType
  text : String
  docString : Option String := none
  table : Option (List (List String)) := none
  line : Nat
deriving DecidableEq, Repr, Inhabited

structure Background where
  keyword : String
  steps : List Step
deriving DecidableEq, Repr, Inhabited

structure Examples where
  keyword : String
  name : String
  tags : List String
  /-- The header comes first. -/
  table : List (List String)
  line : Nat
deriving DecidableEq, Repr, Inhabited

structure Scenario where
  keyword : String
  name : String
  tags : List String
  steps : List Step
  examples : List Examples
  line : Nat
deriving DecidableEq, Repr, Inhabited

structure Rule where
  keyword : String
  name : String
  tags : List String
  background : Option Background
  scenarios : List Scenario
  line : Nat
deriving DecidableEq, Repr, Inhabited

structure Feature where
  keyword : String
  name : String
  description : Option String
  tags : List String
  background : Option Background
  scenarios : List Scenario
  rules : List Rule
deriving DecidableEq, Repr, Inhabited

end Source
end Gherkin
end FeaturePlan
