import FeaturePlan.Step.Keyword

/-!
The keywords of a spoken language. A keyword is found as the first of its list that the text begins
with; those of steps hold the space behind them where the language writes one.
-/
namespace FeaturePlan
namespace Gherkin

structure Dialect where
  feature : List String
  background : List String
  rule : List String
  scenario : List String
  outline : List String
  examples : List String
  context : List String
  action : List String
  outcome : List String
  and : List String
  but : List String
deriving Repr

def Dialect.ofType (d : Dialect) : StepType → List String
  | .context => d.context
  | .action => d.action
  | .outcome => d.outcome

def Dialect.conjunctions (d : Dialect) : List String := d.and ++ d.but

def Dialect.scenarios (d : Dialect) : List String := d.scenario ++ d.outline

def Dialect.steps (d : Dialect) : List String :=
  d.context ++ d.action ++ d.outcome ++ d.conjunctions

def Dialect.endsFeature (d : Dialect) : List String := d.background ++ d.rule ++ d.scenarios

def Dialect.endsRule (d : Dialect) : List String := d.background ++ d.scenarios

/-- What ends the description of a background or a scenario. A rule does not: without steps before it
the line of a rule is part of the description. -/
def Dialect.endsSteps (d : Dialect) : List String := d.scenarios ++ d.steps

def Dialect.endsExamples (d : Dialect) : List String := "|" :: d.endsSteps

end Gherkin
end FeaturePlan
