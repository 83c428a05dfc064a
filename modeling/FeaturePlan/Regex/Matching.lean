import FeaturePlan.Characters.Property
import FeaturePlan.Regex.Basic

/-!
Matching by places. An expression takes the set of places where a match may begin to the set of
those where it may end, so that no choice is ever tried twice.
-/
namespace FeaturePlan

def belongsToWord (unicode : Bool) (c : Char) : Bool :=
  if c.toNat < 0x80 then c.isAlphanum || c = '_'
  else unicode && Characters.wordCharacters.contains c

namespace Place

/-- Whether an assertion holds between two neighbours, of which either may be missing. -/
def holdsBetween (before after : Option Char) : Place → Bool
  | .textStart => before.isNone
  | .textEnd => after.isNone
  | .lineStart false => before.all (· = '\n')
  | .lineStart true => before.all fun c => c = '\n' || (c = '\r' && after != some '\n')
  | .lineEnd false => after.all (· = '\n')
  | .lineEnd true => after.all fun c => c = '\r' || (c = '\n' && before != some '\r')
  | .wordEdge u => before.any (belongsToWord u) != after.any (belongsToWord u)
  | .noWordEdge u => before.any (belongsToWord u) == after.any (belongsToWord u)
  | .wordStart u => !before.any (belongsToWord u) && after.any (belongsToWord u)
  | .wordEnd u => before.any (belongsToWord u) && !after.any (belongsToWord u)
  | .wordStartHalf u => !before.any (belongsToWord u)
  | .wordEndHalf u => !after.any (belongsToWord u)

def holdsAt (text : Array Char) (place : Place) (i : Nat) : Bool :=
  place.holdsBetween (if i = 0 then none else text[i - 1]?) text[i]?

end Place

namespace Regex

def insertPlace (x : Nat) : List Nat → List Nat
  | [] => [x]
  | y :: ys => if x < y then x :: y :: ys else if x = y then y :: ys else y :: insertPlace x ys

def mergePlaces (xs ys : List Nat) : List Nat := xs.foldr insertPlace ys

/-- The places reached in exactly `n` rounds; rounds that change nothing are left out. -/
def roundsExactly (step : List Nat → List Nat) : Nat → List Nat → List Nat
  | 0, places => places
  | n + 1, places =>
    let next := step places
    if next == places then places else roundsExactly step n next

/-- The places reached in at most `n` rounds, given those seen before and those first reached in the
last round. -/
def roundsAtMost (step : List Nat → List Nat) : Nat → List Nat → List Nat → List Nat
  | 0, seen, _ => seen
  | n + 1, seen, latest =>
    match (step latest).filter fun p => !seen.contains p with
    | [] => seen
    | fresh => roundsAtMost step n (mergePlaces seen fresh) fresh

/-- The places where a match may end that begins at one of the given places. -/
def ends (text : Array Char) : Regex → List Nat → List Nat
  | .empty, places => places
  | .chars set, places => places.filterMap fun i => do
    let c ← text[i]?
    if set.contains c then some (i + 1) else none
  | .at place, places => places.filter (place.holdsAt text)
  | .group _ body, places => body.ends text places
  | .seq first second, places => second.ends text (first.ends text places)
  | .either first second, places => mergePlaces (first.ends text places) (second.ends text places)
  | .repeated body least most, places =>
    let begun := roundsExactly (body.ends text) least places
    let more := match most with
      | none => text.size + 1
      | some m => min (m - least) (text.size + 1)
    roundsAtMost (body.ends text) more begun begun

def matchesText (r : Regex) (text : String) : Bool :=
  let chars := text.toList.toArray
  !(r.ends chars (List.range (chars.size + 1))).isEmpty

end Regex
end FeaturePlan
