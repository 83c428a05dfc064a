/-!
Kinds of scopes, and which of them may directly contain which.
-/
namespace FeaturePlan

inductive ScopeKind where
  | root
  | feature
  | rule
  | scenario
  | outline
deriving DecidableEq, Repr, Inhabited

namespace ScopeKind

def label : ScopeKind → String
  | .root => "root"
  | .feature => "feature"
  | .rule => "rule"
  | .scenario => "scenario"
  | .outline => "scenarioOutline"

def keyword : ScopeKind → String
  | .root => "Root"
  | .feature => "Feature"
  | .rule => "Rule"
  | .scenario => "Scenario"
  | .outline => "Scenario Outline"

def all : List ScopeKind := [.root, .feature, .rule, .scenario, .outline]

def isExecutable : ScopeKind → Bool
  | .scenario | .outline => true
  | _ => false

/-- The kinds that may directly contain a scope of this kind. -/
def usualParents : ScopeKind → List ScopeKind
  | .root => []
  | .feature => [.root]
  | .rule => [.feature]
  | .scenario | .outline => [.feature, .rule]

end ScopeKind
end FeaturePlan
