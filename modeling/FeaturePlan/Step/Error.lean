import FeaturePlan.Likeness.Report
import FeaturePlan.Regex.Refusal

/-!
Why a step has no definition.
-/
namespace FeaturePlan

/-- A step that no definition matches, and where it stands. -/
structure UnmatchedStep where
  step : String
  scenario : String
  outline : Option String
  rule : Option String
  feature : String
  report : Report
deriving Repr

def UnmatchedStep.headline (u : UnmatchedStep) : String :=
  "No step definition matched `" ++ u.step ++ "` in scenario \"" ++ u.scenario ++ "\"" ++
    ((u.outline.map fun o => " of outline \"" ++ o ++ "\"").getD "") ++
    ((u.rule.map fun r => " in rule \"" ++ r ++ "\"").getD "") ++
    " of feature \"" ++ u.feature ++ "\""

inductive StepError where
  | noMatch (unmatched : UnmatchedStep)
  | invalidPattern (source : String) (reason : Reason)
deriving Repr

namespace StepError

def message (e : StepError) (wording : Wording := .elided) : String :=
  match e with
  | .noMatch u => u.headline ++ if u.report.isEmpty then "" else "\n" ++ u.report.display
  | .invalidPattern source reason => "Invalid step pattern `" ++ source ++ "`: " ++ reason.text wording

def render (e : StepError) (coloring : Coloring) (wording : Wording := .elided) : String :=
  match e with
  | .noMatch u => u.headline ++ "\n" ++ u.report.render coloring
  | .invalidPattern .. => e.message wording

def step? : StepError → Option String
  | .noMatch u => some u.step
  | .invalidPattern .. => none

def report? : StepError → Option Report
  | .noMatch u => some u.report
  | .invalidPattern .. => none

end StepError
end FeaturePlan
