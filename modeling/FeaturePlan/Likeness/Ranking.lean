import FeaturePlan.Likeness.Merge
import FeaturePlan.Step.Definition
import FeaturePlan.Text.EditDistance

/-!
Ranking step definitions by how like they are to a step. A definition is as far from a step as the
text of the step is from its merge into the pattern.
-/
namespace FeaturePlan
namespace Likeness

/-- A definition that the author of a step may have meant. -/
structure Suggestion where
  definition : StepDefinition
  /-- The text of the step merged into the pattern. -/
  merged : String
  distance : Nat
deriving DecidableEq, Repr

/-- Suggestions of the type of the step, and closer ones of other types. -/
structure Suggestions where
  sameType : List Suggestion := []
  otherType : List Suggestion := []
deriving DecidableEq, Repr, Inhabited

namespace Suggestions

def toList (s : Suggestions) : List Suggestion := s.sameType ++ s.otherType

def isEmpty (s : Suggestions) : Bool := s.toList.isEmpty

def size (s : Suggestions) : Nat := s.toList.length

end Suggestions

def suggestion (text : String) (d : StepDefinition) : Suggestion :=
  let merged := merge text d.source
  ⟨d, merged, EditDistance.ofStrings text merged⟩

/-- Suggestions in order of distance; of two that are equally far the earlier comes first. -/
def byDistance (suggestions : List Suggestion) : List Suggestion :=
  suggestions.mergeSort fun a b => a.distance ≤ b.distance

/-- The closest definitions for a step, at most `limit` of them. Those of other types are taken only
if they are closer than the last one of the same type, and only where there is room left. -/
def rank (text : String) (type : StepType) (definitions : List StepDefinition) (limit : Nat) :
    Suggestions :=
  let scored := byDistance (definitions.map (suggestion text))
  let (same, other) := scored.partition fun s => s.definition.keyword.suits type
  let sameType := same.take limit
  let closer := other.filter fun s => sameType.getLast?.all fun worst => s.distance < worst.distance
  ⟨sameType, closer.take (limit - sameType.length)⟩

end Likeness
end FeaturePlan
