import FeaturePlan.Gherkin.Document
import FeaturePlan.Step.Matchers

/-!
Looking up the definition of a step: the first one that may define it and whose pattern matches. If
there is none, suggestions are ranked.
-/
namespace FeaturePlan
namespace Lookup

structure Context where
  feature : String
  rule : Option String := none
  outline : Option String := none
  scenario : String
deriving DecidableEq, Repr

def defaultLimit : Nat := 5

/-- Whether a definition may define a step, its pattern aside. -/
def fits (step : Gherkin.Step) (d : StepDefinition) : Bool :=
  d.keyword.accepts step.type step.conjunction

def find? (params : Parameters) (step : Gherkin.Step) :
    List StepDefinition → Matching StepError (Option StepDefinition)
  | [] => return none
  | d :: ds => do
    if fits step d then
      if ← d.matchesText params step.text then return some d
    find? params step ds

def suggest (definitions : List StepDefinition) (limit : Nat) (step : Gherkin.Step) :
    Likeness.Suggestions :=
  Likeness.rank step.text step.type definitions limit

/-- A report under the headings that enclose it, the outermost first. -/
def nest (headings : List String) (inner : Report) : Report :=
  headings.foldr (fun h r => .node h none [r]) inner

def report (ctx : Context) (step : Gherkin.Step) (suggestions : Likeness.Suggestions) : Report :=
  nest (["Feature: " ++ ctx.feature] ++ (ctx.rule.map ("Rule: " ++ ·)).toList ++
      (ctx.outline.map ("Scenario Outline: " ++ ·)).toList ++ ["Scenario: " ++ ctx.scenario])
    (.node ("Step: " ++ step.describe) (some suggestions) [])

def resolve (params : Parameters) (definitions : List StepDefinition) (limit : Nat) (ctx : Context)
    (step : Gherkin.Step) : Matching StepError StepDefinition := do
  match ← find? params step definitions with
  | some d => return d
  | none => throw (.noMatch {
      step := step.describe
      scenario := ctx.scenario
      outline := ctx.outline
      rule := ctx.rule
      feature := ctx.feature
      report := report ctx step (suggest definitions limit step) })

end Lookup
end FeaturePlan
