import FeaturePlan.Scope.Node

/-!
Worlds: what the steps of a scope share. A factory makes a fresh world for every request and decides
itself what to take from the world of an enclosing scope.
-/
namespace FeaturePlan

inductive WorldError where
  | noFactory (scope : String)
  | creation (reason : String)
deriving DecidableEq, Repr

namespace WorldError

def message : WorldError → String
  | .noFactory scope => "No world factory configured to create a world for " ++ scope
  | .creation reason => "Failed to create world: " ++ reason

def isCreation : WorldError → Bool
  | .creation _ => true
  | .noFactory _ => false

end WorldError

/-- Makes a world for a scope, given the world of an enclosing one if there is any. -/
abbrev WorldFactory (m : Type → Type) (W : Type) := Scope → Option W → m (Except WorldError W)

def createWorld {m : Type → Type} [Monad m] {W : Type} (factory : Option (WorldFactory m W))
    (scope : Scope) (parent : Option W) : m (Except WorldError W) :=
  match factory with
  | none => pure (.error (.noFactory scope.id.text))
  | some create => create scope parent

end FeaturePlan
