import FeaturePlan.Gherkin.Document
import FeaturePlan.Scope.Kind

/-!
The places of a document: its scenarios and outlines in order, each with the rule around it.
-/
namespace FeaturePlan
namespace Gherkin

def Node.kind : Node → ScopeKind
  | .scenario _ => .scenario
  | .outline _ => .outline

def Node.name : Node → String
  | .scenario s => s.name
  | .outline o => o.name

def Element.places : Element → List (Option Rule × Node)
  | .node n => [(none, n)]
  | .rule r => r.nodes.map (some r, ·)

def Element.rule? : Element → Option Rule
  | .node _ => none
  | .rule r => some r

def Document.places (d : Document) : List (Option Rule × Node) := d.elements.flatMap Element.places

def Document.rules (d : Document) : List Rule := d.elements.filterMap Element.rule?

theorem Element.foldr_places (e : Element) (count : Nat) :
    e.places.foldr (fun place n => place.2.executionCount + n) count = e.executionCount + count := by
  cases e with
  | node n => rfl
  | rule r =>
    rw [places, List.foldr_map, executionCount]
    induction r.nodes with
    | nil => simp
    | cons n ns ih => rw [List.foldr_cons, List.foldr_cons, ih, Nat.add_assoc]

/-- The executions of a document are those of its places. -/
theorem Document.executionCount_eq (d : Document) :
    d.executionCount = d.places.foldr (fun place n => place.2.executionCount + n) 0 := by
  rw [executionCount, places, List.foldr_flatMap]
  simp only [Element.foldr_places]

end Gherkin
end FeaturePlan
