import FeaturePlan.Text.WordDiff

/-!
Merging a step text into a pattern: what the text would be if it followed the pattern. Between the
words that both have in common, a placeholder of the pattern takes words of the text, and the last
placeholder of such a run takes all that are left.
-/
namespace FeaturePlan
namespace Likeness

open WordDiff

def closesAtEnd : List Char → Bool
  | [] => false
  | c :: cs => if c = '}' then cs.isEmpty else c != '{' && closesAtEnd cs

/-- A word in one pair of braces, with no brace inside. -/
def isPlaceholder (word : String) : Bool :=
  match word.toList with
  | c :: cs => c = '{' && closesAtEnd cs
  | [] => false

/-- The added words of a run of changes, each placeholder replaced by removed words as long as there
are any: by one word, or by all that are left once no placeholder is. The first number counts the
placeholders that have not taken any words yet. -/
def settle : Nat → List String → List String → List String
  | _, _, [] => []
  | unfilled, removed, w :: ws =>
    if !isPlaceholder w || removed.isEmpty then w :: settle unfilled removed ws
    else
      let unfilled := unfilled - 1
      let share := if unfilled = 0 then removed.length else 1
      removed.take share ++ settle unfilled (removed.drop share) ws

def mergeRun (run : List (Change String)) : List String :=
  let added := run.filterMap Change.added?
  settle (added.countP isPlaceholder) (run.filterMap Change.removed?) added

/-- The words of a merge. A run of changes ends where a word is kept. -/
def mergeChanges : List (Change String) → List String
  | [] => []
  | .kept w :: cs => w :: mergeChanges cs
  | c :: cs => mergeRun (c :: cs.takeWhile (!·.isKept)) ++ mergeChanges (cs.dropWhile (!·.isKept))
termination_by cs => cs.length
decreasing_by
  · simp
  · exact Nat.lt_succ_of_le (List.dropWhile_suffix _).length_le

def merge (text pattern : String) : String := Text.unwords (mergeChanges (ofTexts text pattern))

end Likeness
end FeaturePlan
