import FeaturePlan.Mode
import FeaturePlan.Pattern.Basic
import FeaturePlan.Scope.Identifier
import FeaturePlan.Step.Keyword

/-!
Definitions of steps and hooks.
-/
namespace FeaturePlan

structure Location where
  path : String
  line : Nat
  column : Nat
deriving DecidableEq, Repr

namespace Location

def display (l : Location) : String :=
  l.path ++ ":" ++ toString l.line ++ ":" ++ toString l.column

def filename (l : Location) : String :=
  String.ofList (l.path.toList.reverse.takeWhile fun c => c != '/' && c != '\\').reverse

end Location

/-- What is kept of a definition for those who run it. The timeout is in milliseconds, and `data` is
the user's own. -/
structure DefinitionDetails where
  tags : List String := []
  timeout : Option Nat := none
  order : Option Int := none
  data : Option String := none
deriving DecidableEq, Repr, Inhabited

structure DefinitionOptions where
  mode : Option Mode := none
  details : DefinitionDetails := {}
deriving DecidableEq, Repr, Inhabited

/-- The pattern that a step means if its text matches. -/
structure StepDefinition where
  id : StepId
  keyword : StepKeyword
  pattern : Pattern
  mode : Mode := .standard
  details : DefinitionDetails := {}
  location : Option Location := none
deriving DecidableEq, Repr

def StepDefinition.source (d : StepDefinition) : String := d.pattern.source

inductive HookType where
  | beforeFeature | afterFeature
  | beforeRule | afterRule
  | beforeScenario | afterScenario
  | beforeStep | afterStep
  /-- Once before all else in its scope. -/
  | setup
  /-- Once after all else in its scope. -/
  | teardown
deriving DecidableEq, Repr, Inhabited

namespace HookType

def label : HookType → String
  | .beforeFeature => "BeforeFeature"
  | .afterFeature => "AfterFeature"
  | .beforeRule => "BeforeRule"
  | .afterRule => "AfterRule"
  | .beforeScenario => "BeforeScenario"
  | .afterScenario => "AfterScenario"
  | .beforeStep => "BeforeStep"
  | .afterStep => "AfterStep"
  | .setup => "Setup"
  | .teardown => "Teardown"

def all : List HookType :=
  [.beforeFeature, .afterFeature, .beforeRule, .afterRule, .beforeScenario, .afterScenario,
    .beforeStep, .afterStep, .setup, .teardown]

def ofLabel? (text : String) : Option HookType := all.find? (·.label = text)

end HookType

structure HookDefinition where
  id : HookId
  type : HookType
  description : Option String := none
  mode : Mode := .standard
  details : DefinitionDetails := {}
deriving DecidableEq, Repr

end FeaturePlan
