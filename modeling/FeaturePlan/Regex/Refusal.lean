/-!
Refused expressions. What is said of one is for those to word who refuse it, so a reason only tells which one it
is, and a message is made of the reason and the words.
-/
namespace FeaturePlan

/-- An expression that is refused: one that is written as it stands, or what a phrase becomes with the expressions
of its parameters in it. -/
inductive Regex.Refusal where
  | expression (source : String)
  | expansion (phrase : String) (parameters : List String)
deriving DecidableEq, Repr

/-- What is said of every expression that is refused. -/
abbrev Wording := Regex.Refusal → String

def Wording.elided : Wording := fun _ => "<regex error>"

inductive Reason where
  | said (text : String)
  /-- A text, and after it what is said of the expression. -/
  | refused (before : String) (refusal : Regex.Refusal)
deriving DecidableEq, Repr

instance : Coe String Reason := ⟨.said⟩

def Reason.text (r : Reason) (wording : Wording) : String :=
  match r with
  | .said text => text
  | .refused before refusal => before ++ wording refusal

end FeaturePlan
