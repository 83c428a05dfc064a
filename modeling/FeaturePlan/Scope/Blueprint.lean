import FeaturePlan.Scope.Registration

/-!
Blueprints: a finished registration, in which every scope and definition is found by its identifier.
-/
namespace FeaturePlan

structure Blueprint where
  root : Scope
  scopes : Catalogue ScopeId Scope
  steps : Catalogue StepId StepDefinition
  hooks : Catalogue HookId HookDefinition
  parameters : Parameters
deriving Repr

def Registration.finish (r : Registration) : Except ScopeError Blueprint :=
  match r.scopes.find? r.root with
  | some root => .ok ⟨root, r.scopes, r.steps, r.hooks, r.parameters⟩
  | none => .error (.duplicateId r.root.text)

/-- A scope with all that it contains, in order of registration. -/
inductive ScopeTree where
  | node (scope : Scope) (children : List ScopeTree)
deriving Repr

mutual

def ScopeTree.preorder : ScopeTree → List Scope
  | .node s cs => s :: ScopeTree.preorderAll cs

def ScopeTree.preorderAll : List ScopeTree → List Scope
  | [] => []
  | t :: ts => t.preorder ++ ScopeTree.preorderAll ts

end

namespace Blueprint

def size (b : Blueprint) : Nat := b.scopes.size

def isEmpty (b : Blueprint) : Bool := b.size ≤ 1

def children (b : Blueprint) (s : Scope) : List Scope := s.children.filterMap b.scopes.find?

def stepsOf (b : Blueprint) (s : Scope) : List StepDefinition := s.steps.filterMap b.steps.find?

def hooksOf (b : Blueprint) (s : Scope) : List HookDefinition := s.hooks.filterMap b.hooks.find?

def treeTo (b : Blueprint) : Nat → Scope → ScopeTree
  | 0, s => .node s []
  | depth + 1, s => .node s ((b.children s).map (b.treeTo depth))

/-- The tree of all scopes. It is never deeper than there are scopes. -/
def tree (b : Blueprint) : ScopeTree := b.treeTo b.size b.root

def preorder (b : Blueprint) : List Scope := b.tree.preorder

end Blueprint
end FeaturePlan
