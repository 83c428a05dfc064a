/-!
Modes that scopes, step definitions and hooks are run in.
-/
namespace FeaturePlan

inductive Mode where
  | standard
  /-- Is not run. -/
  | skip
  /-- Runs together with the others of this mode only. -/
  | only
  /-- Is expected to fail. -/
  | failing
  /-- May run at the same time as its siblings. -/
  | concurrent
deriving DecidableEq, Repr, Inhabited

namespace Mode

def label : Mode → String
  | .standard => "default"
  | .skip => "skip"
  | .only => "only"
  | .failing => "failing"
  | .concurrent => "concurrent"

def all : List Mode := [.standard, .skip, .only, .failing, .concurrent]

def ofLabel? (text : String) : Option Mode := all.find? (·.label = text)

@[simp] theorem ofLabel?_label (m : Mode) : ofLabel? m.label = some m := by cases m <;> decide

end Mode
end FeaturePlan
