import FeaturePlan.Characters.Set

/-!
Regular expressions, with assertions about the place between two characters.
-/
namespace FeaturePlan

inductive Place where
  | textStart
  | textEnd
  /-- After a line feed, or where `crlf` holds after any line ending. -/
  | lineStart (crlf : Bool)
  | lineEnd (crlf : Bool)
  /-- Exactly one of the two neighbours belongs to a word. -/
  | wordEdge (unicode : Bool)
  | noWordEdge (unicode : Bool)
  | wordStart (unicode : Bool)
  | wordEnd (unicode : Bool)
  /-- The character before does not belong to a word. -/
  | wordStartHalf (unicode : Bool)
  /-- The character after does not belong to a word. -/
  | wordEndHalf (unicode : Bool)
deriving DecidableEq, Repr

inductive Regex where
  /-- The empty text. -/
  | empty
  /-- One character of the set. -/
  | chars (set : CharSet)
  | at (place : Place)
  | group (name : Option String) (body : Regex)
  | seq (first second : Regex)
  | either (first second : Regex)
  /-- The body at least `least` times, and at most `most` times if that is given. -/
  | repeated (body : Regex) (least : Nat) (most : Option Nat)
deriving DecidableEq, Repr, Inhabited

namespace Regex

def literal : List Char → Regex
  | [] => .empty
  | [c] => .chars (.singleton c)
  | c :: cs => .seq (.chars (.singleton c)) (literal cs)

def optional (body : Regex) : Regex := .repeated body 0 (some 1)

def sequence : List Regex → Regex
  | [] => .empty
  | [r] => r
  | r :: rs => .seq r (sequence rs)

/-- Any of the given expressions; none of them is the empty text. -/
def anyOf : List Regex → Regex
  | [] => .empty
  | [r] => r
  | r :: rs => .either r (anyOf rs)

def matchesOnlyEmpty : Regex → Bool
  | .empty => true
  | .chars _ => false
  | .at _ => true
  | .group _ body => body.matchesOnlyEmpty
  | .seq first second => first.matchesOnlyEmpty && second.matchesOnlyEmpty
  | .either first second => first.matchesOnlyEmpty && second.matchesOnlyEmpty
  | .repeated body _ most => most == some 0 || body.matchesOnlyEmpty

/-- Whether there are groups in the expression. What has to be left out has none. -/
def hasGroups : Regex → Bool
  | .empty | .chars _ | .at _ => false
  | .group .. => true
  | .seq first second | .either first second => first.hasGroups || second.hasGroups
  | .repeated body _ most => most != some 0 && body.hasGroups

def groupNames : Regex → List String
  | .empty | .chars _ | .at _ => []
  | .group name body => name.toList ++ body.groupNames
  | .seq first second => first.groupNames ++ second.groupNames
  | .either first second => first.groupNames ++ second.groupNames
  | .repeated body _ most => if most == some 0 then [] else body.groupNames

/-- The names of the groups under a repetition. A repetition of exactly one copy is none, and of what
matches only the empty text one copy is enough. -/
def repeatedNames : Regex → List String
  | .empty | .chars _ | .at _ => []
  | .group _ body => body.repeatedNames
  | .seq first second => first.repeatedNames ++ second.repeatedNames
  | .either first second => first.repeatedNames ++ second.repeatedNames
  | .repeated body least most =>
    if most == some 0 then []
    else if (least == 1 && most == some 1) || (body.matchesOnlyEmpty && 0 < least) then
      body.repeatedNames
    else body.groupNames

/-- Bytes that an automaton needs for one character of a set. -/
def setWeight (set : CharSet) : Nat := if set.isAscii then 32 else 32 + 56 * set.ranges.length

/-- Bytes that an automaton for the expression needs, about. -/
def weight : Regex → Nat
  | .empty => 0
  | .chars set => setWeight set
  | .at _ => 32
  | .group _ body => body.weight + 64
  | .seq first second => first.weight + second.weight
  | .either first second => first.weight + second.weight + 64
  | .repeated body least most => (body.weight + 32) * max 1 (most.getD least)

/-- An expression that was read: how deep its parts are nested as they are written, and the names that no other
group may have. -/
structure Reading where
  regex : Regex
  depth : Nat := 0
  names : List String := []

namespace Reading

def maxWeight : Nat := 10 * 1024 * 1024

def maxDepth : Nat := 250

/-- What is too large or nested too deep is refused. -/
def isAllowed (r : Reading) : Bool := r.depth ≤ maxDepth && r.regex.weight ≤ maxWeight

/-- Parts put together. They are nested one deeper in what they become, unless there is only one. -/
def join (make : List Regex → Regex) : List Reading → Reading
  | [] => { regex := make [] }
  | [r] => r
  | rs => {
    regex := make (rs.map regex)
    depth := (rs.map depth).foldl max 0 + 1
    names := rs.flatMap names }

def nested (r : Reading) (make : Regex → Regex) : Reading :=
  { r with regex := make r.regex, depth := r.depth + 1 }

end Reading

end Regex
end FeaturePlan
