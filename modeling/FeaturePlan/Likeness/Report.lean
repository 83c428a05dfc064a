import FeaturePlan.Likeness.Ranking
import FeaturePlan.Text.Paint

/-!
Reports: nested headings with suggestions under them.
-/
namespace FeaturePlan

/-- A heading, the suggestions on it if any were looked for, and the reports nested under it. -/
inductive Report where
  | node (heading : String) (suggestions : Option Likeness.Suggestions) (children : List Report)
deriving Repr, Inhabited

namespace Report

open Likeness Paint

def heading : Report → String
  | .node h _ _ => h

def suggestions : Report → Option Suggestions
  | .node _ s _ => s

def children : Report → List Report
  | .node _ _ cs => cs

mutual

def isEmpty : Report → Bool
  | .node _ s cs => s.isNone && allEmpty cs

def allEmpty : List Report → Bool
  | [] => true
  | r :: rs => r.isEmpty && allEmpty rs

end

def indent (depth : Nat) : String := String.ofList (List.replicate (2 * depth) ' ')

def suggestionLine (depth : Nat) (s : Suggestion) : List Piece :=
  let d := s.definition
  [plain (indent depth ++ "  - "), styled .green d.keyword.label, plain " ", styled .green d.source] ++
    match d.location with
    | some l => [plain " ", styled .cyan ("# " ++ l.display)]
    | none => []

def tierLines (depth : Nat) (title : String) (tier : List Suggestion) : List (List Piece) :=
  if tier.isEmpty then [] else [plain (indent depth ++ title)] :: tier.map (suggestionLine depth)

def suggestionLines (depth : Nat) (s : Suggestions) : List (List Piece) :=
  (if s.isEmpty then
    [[plain (indent depth), styled .red "No similar step definitions found."]]
  else []) ++
  tierLines depth "Did you mean:" s.sameType ++
  tierLines depth "Or maybe a step of another type:" s.otherType

mutual

def lines (depth : Nat) : Report → List (List Piece)
  | .node h s cs =>
    [plain (indent depth), styled .bold h] ::
      ((s.map (suggestionLines (depth + 1))).getD [] ++ linesOfAll (depth + 1) cs)

def linesOfAll (depth : Nat) : List Report → List (List Piece)
  | [] => []
  | r :: rs => lines depth r ++ linesOfAll depth rs

end

def render (r : Report) (coloring : Coloring) : String := renderLines coloring.paints (r.lines 0)

def display (r : Report) : String := r.render .never

end Report
end FeaturePlan
