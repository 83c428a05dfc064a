import FeaturePlan.Gherkin.Error
import FeaturePlan.Scope.Error
import FeaturePlan.Step.Error
import FeaturePlan.World

/-!
Why there is no plan.
-/
namespace FeaturePlan

/-- Why a document and the registered scopes do not go together. -/
inductive PairingError where
  | missingScope (kind : ScopeKind) (name : String) (rule : Option String) (feature : String)
  | unmatched (scopes : List String)
  | missingRule (name feature : String)
  | missingFeature (name : String)
deriving DecidableEq, Repr

def PairingError.message : PairingError → String
  | .missingScope kind name rule feature =>
    "No registered " ++ kind.label ++ " scope for \"" ++ name ++ "\"" ++
      ((rule.map fun r => " in rule \"" ++ r ++ "\"").getD "") ++ " of feature \"" ++ feature ++ "\""
  | .unmatched scopes =>
    toString scopes.length ++ " registered scope(s) were not matched to any Gherkin node:" ++
      String.join (scopes.map ("\n  - " ++ ·))
  | .missingRule name feature =>
    "No registered rule scope for \"" ++ name ++ "\" of feature \"" ++ feature ++ "\""
  | .missingFeature name => "No registered feature scope for \"" ++ name ++ "\""

/-- An identity that two executions claim. -/
inductive IdentityError where
  | duplicateId (id : String)
  | duplicateName (name : String)
deriving DecidableEq, Repr

def IdentityError.message : IdentityError → String
  | .duplicateId id => "id `" ++ id ++ "` is already taken"
  | .duplicateName name => "qualified name `" ++ name ++ "` is already taken"

inductive PlanError where
  | scope (cause : ScopeError)
  | pairing (cause : PairingError)
  | identity (cause : IdentityError)
  | step (cause : StepError)
  | world (cause : WorldError)
  | document (cause : Gherkin.DocumentError)
deriving Repr

namespace PlanError

def causeMessage (e : PlanError) (wording : Wording := .elided) : String :=
  match e with
  | .scope e => e.message wording
  | .pairing e => e.message
  | .identity e => e.message
  | .step e => e.message wording
  | .world e => e.message
  | .document e => e.message

def heading : PlanError → String
  | .scope _ => "Invalid scope structure: "
  | .pairing _ => "Reconciliation failed: "
  | .identity _ => "Duplicate execution identity: "
  | .step _ => "Step resolution failed: "
  | .world _ => "World creation failed: "
  | .document _ => "Invalid Gherkin document: "

def message (e : PlanError) (wording : Wording := .elided) : String :=
  e.heading ++ e.causeMessage wording

def isUnmatchedStep : PlanError → Bool
  | .step (.noMatch _) => true
  | _ => false

def render (e : PlanError) (coloring : Coloring) (wording : Wording := .elided) : String :=
  match e with
  | .step cause => cause.render coloring wording
  | e => e.message wording

end PlanError
end FeaturePlan
