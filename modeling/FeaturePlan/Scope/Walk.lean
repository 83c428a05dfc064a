import FeaturePlan.Scope.Blueprint

/-!
Walks through a blueprint. What is to be visited stands on a stack, and every scope that is met is noted
with the scope it was met in, so that the way back to the root can be found again.
-/
namespace FeaturePlan

structure Walk where
  /-- The scopes that are still to be visited, the next one first. -/
  pending : List Scope
  /-- The scopes visited so far, in order. -/
  visited : List Scope := []
  /-- For every scope that was met the scope it was met in. -/
  parents : Catalogue ScopeId Scope := {}
deriving Repr

namespace Walk

/-- Meets a scope inside another. It is visited before all that were met earlier. -/
def meet (parent : Scope) (w : Walk) (s : Scope) : Walk :=
  { w with pending := s :: w.pending, parents := w.parents.put s.id parent }

/-- Visits a scope. What it contains is met from the last to the first, so the first is visited next. -/
def visit (b : Blueprint) (w : Walk) (s : Scope) : Walk :=
  (b.children s).reverse.foldl (meet s) { w with visited := w.visited ++ [s] }

/-- Visits the next scope as long as there is one, but so many scopes at most. -/
def run (b : Blueprint) : Nat → Walk → Walk
  | 0, w => w
  | n + 1, w =>
    match w.pending with
    | [] => w
    | s :: pending => run b n (visit b { w with pending } s)

/-- The scopes that enclose a scope, the nearest first: each was met in the next one. There are so many at
most. -/
def above (w : Walk) : Nat → Scope → List Scope
  | 0, _ => []
  | n + 1, s =>
    match w.parents.find? s.id with
    | none => []
    | some parent => parent :: w.above n parent

end Walk

namespace Blueprint

def walkStart (b : Blueprint) : Walk := { pending := [b.root] }

/-- The walk through all scopes. It never visits more of them than there are. -/
def walk (b : Blueprint) : Walk := .run b b.size b.walkStart

end Blueprint
end FeaturePlan
