import FeaturePlan.Step.Error

/-!
Matching step definitions. The pattern of a definition is compiled when it is first asked about, and
what comes of it is kept; a pattern that does not compile is tried again the next time.
-/
namespace FeaturePlan

/-- The compiled phrases kept so far, by definition and source. A regular expression is part of its
pattern and needs no keeping. -/
structure Matchers where
  entries : List ((StepId × String) × Regex) := []
deriving DecidableEq, Repr, Inhabited

namespace Matchers

def find? (m : Matchers) (id : StepId) (source : String) : Option Regex :=
  m.entries.lookup (id, source)

def insert (m : Matchers) (id : StepId) (source : String) (r : Regex) : Matchers :=
  ⟨((id, source), r) :: m.entries⟩

@[simp] theorem find?_empty (id : StepId) (source : String) :
    ({} : Matchers).find? id source = none := rfl

@[simp] theorem find?_insert_self (m : Matchers) (id : StepId) (source : String) (r : Regex) :
    (m.insert id source r).find? id source = some r := by
  simp [find?, insert]

end Matchers

/-- An action that may fail, with the compiled patterns at hand. What was compiled before a failure is
kept. -/
abbrev Matching (ε : Type) := ExceptT ε (StateM Matchers)

namespace StepDefinition

def compiled (d : StepDefinition) (params : Parameters) : Matching StepError Regex :=
  match d.pattern with
  | .regex _ r => pure r
  | .phrase source => do
    match (← get).find? d.id source with
    | some r => return r
    | none =>
      match Phrase.compile source params with
      | .ok r =>
        modify (·.insert d.id source r)
        return r
      | .error fault => throw (.invalidPattern source fault.message)

def matchesText (d : StepDefinition) (params : Parameters) (text : String) :
    Matching StepError Bool := do
  return (← d.compiled params).matchesText text

end StepDefinition
end FeaturePlan
