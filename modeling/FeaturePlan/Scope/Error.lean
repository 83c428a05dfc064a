import FeaturePlan.Regex.Refusal
import FeaturePlan.Scope.Kind

/-!
What can be wrong with the registration of scopes.
-/
namespace FeaturePlan

inductive ScopeError where
  | invalidParent (kind : ScopeKind) (name : String) (parent : ScopeKind)
  | duplicateId (id : String)
  /-- A scenario stands in no feature. -/
  | orphaned (scope : String)
  | emptyStack (what : String)
  | invalidParameter (name : String) (reason : Reason)
deriving DecidableEq, Repr

def ScopeError.message (e : ScopeError) (wording : Wording := .elided) : String :=
  match e with
  | .invalidParent kind name parent =>
    "Cannot create " ++ kind.label ++ " \"" ++ name ++ "\" directly inside a " ++ parent.label
  | .duplicateId id => "Id `" ++ id ++ "` is already taken by another definition"
  | .orphaned scope => "Scope " ++ scope ++ " is not enclosed by any feature"
  | .emptyStack what => "Scope stack is empty, nothing to attach " ++ what ++ " to"
  | .invalidParameter name reason =>
    "Invalid parameter type `\x7b" ++ name ++ "\x7d`: " ++ reason.text wording

end FeaturePlan
