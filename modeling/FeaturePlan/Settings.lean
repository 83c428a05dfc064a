import FeaturePlan.Mode
import FeaturePlan.Step.Lookup
import FeaturePlan.Text.Paint

/-!
Settings, and how they are given on a command line. A value may follow its option after an equals sign,
and then it is read at once, or as the next argument, and then it is read when the next option is met.
-/
namespace FeaturePlan

structure Settings where
  /-- The mode of scopes and definitions that ask for none. -/
  defaultMode : Mode := .standard
  /-- The number of suggestions for a step without a definition. -/
  suggestionLimit : Nat := Lookup.defaultLimit
  coloring : Coloring := .auto
deriving DecidableEq, Repr, Inhabited

namespace Settings

inductive OptionName where
  | defaultMode
  | suggestions
  | color
deriving DecidableEq, Repr

def OptionName.ofText? : String → Option OptionName
  | "default-mode" => some .defaultMode
  | "suggestions" => some .suggestions
  | "color" => some .color
  | _ => none

inductive ArgumentFault where
  /-- A value is missing or is not among those that are possible. -/
  | invalidValue
  /-- A value cannot be read. -/
  | unreadableValue
  | unknownArgument
  /-- An option is given twice. -/
  | repeatedOption
  /-- A value is given to what takes none. -/
  | needlessValue
  | helpRequested
deriving DecidableEq, Repr

/-- What has been read of the arguments: the settings, the options given so far, and the option that
waits for a value or for its value to be read. -/
structure Progress where
  settings : Settings := {}
  given : List OptionName := []
  pending : Option (OptionName × Option String) := none
deriving Repr

def maxNumber : Nat := UInt64.size - 1

/-- The number that digits write, after a plus sign or none. -/
def readNumber? (text : String) : Option Nat :=
  let digits := match text.toList with
    | '+' :: cs => cs
    | cs => cs
  if digits.isEmpty || !digits.all Char.isDigit then none
  else
    let n := digits.foldl (fun n c => n * 10 + (c.toNat - 48)) 0
    if n ≤ maxNumber then some n else none

def withValue (s : Settings) : OptionName → String → Except ArgumentFault Settings
  | .defaultMode, value =>
    match Mode.ofLabel? value with
    | some mode => .ok { s with defaultMode := mode }
    | none => .error .invalidValue
  | .suggestions, value =>
    match readNumber? value with
    | some n => .ok { s with suggestionLimit := n }
    | none => .error .unreadableValue
  | .color, value =>
    match Coloring.ofLabel? value with
    | some coloring => .ok { s with coloring }
    | none => .error .unreadableValue

def Progress.give (p : Progress) (name : OptionName) (value : String) :
    Except ArgumentFault Progress := do
  if name ∈ p.given then throw .repeatedOption
  return { p with settings := ← p.settings.withValue name value, given := name :: p.given }

def Progress.settle (p : Progress) : Except ArgumentFault Progress :=
  match p.pending with
  | none => .ok p
  | some (_, none) => .error .invalidValue
  | some (name, some value) => { p with pending := none }.give name value

def splitOption (text : List Char) : String × Option String :=
  (String.ofList (text.takeWhile (· ≠ '=')),
    match text.dropWhile (· ≠ '=') with
    | _ :: value => some (String.ofList value)
    | [] => none)

def Progress.argument (p : Progress) (text : List Char) : Except ArgumentFault Progress :=
  match text with
  | '-' :: '-' :: long =>
    match splitOption long with
    | ("help", none) => do let _ ← p.settle; throw .helpRequested
    | ("help", some _) => .error .needlessValue
    | (name, value) =>
      match OptionName.ofText? name with
      | none => .error .unknownArgument
      | some name => do
        let p ← p.settle
        match value with
        | some value => p.give name value
        | none => return { p with pending := some (name, none) }
  | '-' :: 'h' :: _ => do let _ ← p.settle; throw .helpRequested
  | '-' :: _ :: _ => .error .unknownArgument
  | value =>
    match p.pending with
    | some (name, none) => .ok { p with pending := some (name, some (String.ofList value)) }
    | _ => .error .unknownArgument

/-- Reads arguments in order. Behind two hyphens alone only values may stand, and none is expected. -/
def Progress.arguments (p : Progress) : List String → Except ArgumentFault Progress
  | [] => p.settle
  | text :: rest =>
    if text = "--" then (if rest.isEmpty then p.settle else .error .unknownArgument)
    else do (← p.argument text.toList).arguments rest

def ofArguments (arguments : List String) : Except ArgumentFault Settings :=
  (({} : Progress).arguments arguments).map (·.settings)

end Settings
end FeaturePlan
