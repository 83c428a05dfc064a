import FeaturePlan.Scope.Walk

/-!
Candidates: the scenarios and outlines of a blueprint, each with the scopes that enclose it and the
step definitions that it may use.
-/
namespace FeaturePlan

/-- A scope that a document's scenario or outline may be paired with. -/
structure Candidate where
  scope : Scope
  /-- The nearest enclosing feature. -/
  feature : Scope
  /-- The nearest enclosing rule. -/
  rule : Option Scope
  /-- The enclosing scopes below the root, the outermost first. -/
  ancestors : List Scope
  /-- The definitions of the scope, then those of each enclosing scope, the nearest first and the root
  last. -/
  steps : List StepDefinition
deriving DecidableEq, Repr

def Candidate.id (c : Candidate) : ScopeId := c.scope.id

namespace Blueprint

def candidate (b : Blueprint) (s : Scope) (enclosing : List Scope) : Except ScopeError Candidate :=
  let ancestors := enclosing.filter (·.kind != .root)
  match ancestors.find? (·.kind = .feature) with
  | none => .error (.orphaned s.describe)
  | some feature => .ok {
      scope := s
      feature
      rule := ancestors.find? (·.kind = .rule)
      ancestors := ancestors.reverse
      steps := (s :: ancestors).flatMap b.stepsOf ++ b.stepsOf b.root }

/-- The candidates in the order of the walk, unless a scenario or an outline stands in no feature. -/
def candidates (b : Blueprint) : Except ScopeError (List Candidate) :=
  let w := b.walk
  (w.visited.filter (·.kind.isExecutable)).mapM fun s => b.candidate s (w.above b.size s)

end Blueprint
end FeaturePlan
