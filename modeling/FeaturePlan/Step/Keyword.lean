/-!
Types of steps and keywords of step definitions.
-/
namespace FeaturePlan

/-- What a step is for: it sets a context, acts, or looks at an outcome. -/
inductive StepType where
  | context
  | action
  | outcome
deriving DecidableEq, Repr, Inhabited

namespace StepType

def label : StepType → String
  | .context => "Given"
  | .action => "When"
  | .outcome => "Then"

def all : List StepType := [.context, .action, .outcome]

def ofLabel? (text : String) : Option StepType := all.find? (·.label = text)

end StepType

/-- The keyword of a step definition. A conjunction has no type of its own. -/
inductive StepKeyword where
  | typed (type : StepType)
  | and
  | but
deriving DecidableEq, Repr, Inhabited

namespace StepKeyword

def label : StepKeyword → String
  | .typed type => type.label
  | .and => "And"
  | .but => "But"

def all : List StepKeyword := StepType.all.map .typed ++ [.and, .but]

def ofLabel? (text : String) : Option StepKeyword := all.find? (·.label = text)

def type? : StepKeyword → Option StepType
  | .typed type => some type
  | .and | .but => none

def isConjunction (k : StepKeyword) : Bool := k.type?.isNone

/-- Whether a definition with this keyword belongs to a type: conjunctions belong to every one. -/
def suits (k : StepKeyword) (type : StepType) : Bool := k.type?.all (· = type)

/-- Whether a step may have a definition with this keyword. A conjunction on either side is enough. -/
def accepts (k : StepKeyword) (type : StepType) (conjunction : Bool) : Bool :=
  conjunction || k.suits type

end StepKeyword
end FeaturePlan
