/-!
Phrases: step patterns in plain words, with optional text in parentheses, alternatives between slashes
and parameters in braces. Reading a phrase tells what is wrong with a malformed one and shows where.
-/
namespace FeaturePlan
namespace Phrase

/-- What an alternative is made of. -/
inductive Part where
  | text (chars : List Char)
  | optional (chars : List Char)
deriving DecidableEq, Repr

def Part.isOptional : Part → Bool
  | .optional _ => true
  | .text _ => false

/-- What a phrase is made of. The name of a parameter stands as it is written. -/
inductive Item where
  | alternation (alternatives : List (List Part))
  | optional (chars : List Char)
  | parameter (name : String)
  | text (chars : List Char)
  | spaces (count : Nat)
deriving DecidableEq, Repr

inductive Fault where
  | nestedParameter
  | optionalInParameter
  | unfinishedParameter
  | nestedOptional
  | parameterInOptional
  | emptyOptional
  | alternationInOptional
  | unfinishedOptional
  | emptyAlternation
  | onlyOptionalInAlternation
  | unescapedReserved
  | escapedNonReserved
  | escapedEnd
deriving DecidableEq, Repr

structure Failure where
  fault : Fault
  shown : List Char
deriving DecidableEq, Repr

def Fault.explanation : Fault → String × String
  | .nestedParameter =>
    ("A parameter may not contain an other parameter.",
      "If you did not mean to use an optional type you can use '\\\x7b' to escape the '\x7b'. " ++
      "For more complicated expressions consider using a regular expression instead.")
  | .optionalInParameter =>
    ("A parameter may not contain an optional.",
      "If you did not mean to use an parameter type you can use '\\(' to escape the '('.")
  | .unfinishedParameter =>
    ("The '\x7b' does not have a matching '\x7d'.",
      "If you did not intend to use a parameter you can use '\\\x7b' to escape the '\x7b'.")
  | .nestedOptional =>
    ("An optional may not contain an other optional.",
      "If you did not mean to use an optional type you can use '\\(' to escape the '('. " ++
      "For more complicated expressions consider using a regular expression instead.")
  | .parameterInOptional =>
    ("An optional may not contain a parameter.",
      "If you did not mean to use an parameter type you can use '\\\x7b' to escape the '\x7b'.")
  | .emptyOptional =>
    ("An optional must contain some text.",
      "If you did not mean to use an optional you can use '\\(' to escape the '('.")
  | .alternationInOptional =>
    ("An alternation can not be used inside an optional.",
      "You can use '\\/' to escape the '/'.")
  | .unfinishedOptional =>
    ("The '(' does not have a matching ')'.",
      "If you did not intend to use an optional you can use '\\(' to escape the '('.")
  | .emptyAlternation =>
    ("An alternation can not be empty.",
      "If you did not mean to use an alternative you can use '\\/' to escape the '/'.")
  | .onlyOptionalInAlternation =>
    ("An alternation may not exclusively contain optionals.",
      "If you did not mean to use an optional you can use '\\(' to escape the '('.")
  | .unescapedReserved =>
    ("Unescaped reserved character.", "You can use an '\\' to escape it.")
  | .escapedNonReserved =>
    ("Only the characters '\x7b', '\x7d', '(', ')', '\\', '/' and whitespace can be escaped.",
      "If you did mean to use an '\\' you can use '\\\\' to escape it.")
  | .escapedEnd =>
    ("The end of line can not be escaped.", "You can use '\\' to escape the the ''.")

/-- The lines that report a failure: where it is, what it is, and what to do about it. -/
def Failure.message (f : Failure) : String :=
  String.ofList f.shown ++ "\n" ++ f.fault.explanation.1 ++ "\n" ++ f.fault.explanation.2

end Phrase
end FeaturePlan
