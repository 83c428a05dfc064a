import FeaturePlan.Mode
import FeaturePlan.Scope.Identifier

/-!
Scopes: named places of a tree, to which definitions and further scopes are attached.
-/
namespace FeaturePlan

/-- What is kept of a scope for those who run it. The timeout is in milliseconds; `data` and `examples`
are the user's own. -/
structure ScopeDetails where
  tags : List String := []
  timeout : Option Nat := none
  description : Option String := none
  data : Option String := none
  examples : Option String := none
  pending : Bool := false
deriving DecidableEq, Repr, Inhabited

/-- What is asked of a scope when it is opened: a mode of its own, and one that goes with the way it
was opened. -/
structure ScopeMetadata where
  mode : Option Mode := none
  variant : Option Mode := none
  details : ScopeDetails := {}
deriving DecidableEq, Repr, Inhabited

/-- The mode of a scope: its own, else the one of its variant, else the default. -/
def ScopeMetadata.resolveMode (m : ScopeMetadata) (fallback : Mode) : Mode :=
  (m.mode.or m.variant).getD fallback

/-- A scope with what is attached to it, in order of registration. -/
structure Scope where
  id : ScopeId
  kind : ScopeKind
  name : String
  mode : Mode
  details : ScopeDetails := {}
  steps : List StepId := []
  hooks : List HookId := []
  children : List ScopeId := []
deriving DecidableEq, Repr

def Scope.describe (s : Scope) : String :=
  s.kind.label ++ " \"" ++ s.name ++ "\" [" ++ s.id.text ++ "]"

end FeaturePlan
