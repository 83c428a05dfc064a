import FeaturePlan.Scope.Kind

/-!
Identifiers of scopes, step definitions and hooks, and where they come from. A source answers every
request by what was requested before, so it may repeat itself; the sequential source never does.
-/
namespace FeaturePlan

structure ScopeId where
  text : String
deriving DecidableEq, Repr, Inhabited

structure StepId where
  text : String
deriving DecidableEq, Repr, Inhabited

structure HookId where
  text : String
deriving DecidableEq, Repr, Inhabited

inductive IdKind where
  | scope (kind : ScopeKind)
  | step
  | hook
deriving DecidableEq, Repr

def IdKind.label : IdKind → String
  | .scope kind => kind.label
  | .step => "step"
  | .hook => "hook"

/-- A source of identifiers: the answer to a request after earlier ones, the latest first. -/
structure IdSource where
  answer : List IdKind → IdKind → String

namespace IdSource

def sequential : IdSource where
  answer earlier kind := kind.label ++ "-" ++ toString (earlier.count kind + 1)

/-- Hands out the given identifiers in order, and the last one ever after. -/
def ofList (first : String) (others : List String) : IdSource where
  answer earlier _ := ((first :: others)[min earlier.length others.length]?).getD first

def kindOnly : IdSource where
  answer _ kind := kind.label

end IdSource

/-- A source together with the requests made of it so far, the latest first. -/
structure IdSupply where
  source : IdSource
  requests : List IdKind := []

def IdSupply.draw (supply : IdSupply) (kind : IdKind) : String × IdSupply :=
  (supply.source.answer supply.requests kind, { supply with requests := kind :: supply.requests })

@[simp] theorem IdSupply.draw_source (supply : IdSupply) (kind : IdKind) :
    (supply.draw kind).2.source = supply.source := rfl

@[simp] theorem IdSupply.draw_requests (supply : IdSupply) (kind : IdKind) :
    (supply.draw kind).2.requests = kind :: supply.requests := rfl

end FeaturePlan
