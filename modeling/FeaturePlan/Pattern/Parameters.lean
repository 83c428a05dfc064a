import FeaturePlan.Regex.Reader
import FeaturePlan.Regex.Refusal

/-!
Parameter types of phrases: a name and the regular expression that its values match. Types only ever
get added, and none that is built in or defined before changes.
-/
namespace FeaturePlan

/-- The custom parameter types, in order of definition. -/
structure Parameters where
  entries : List (String × String) := []
deriving DecidableEq, Repr, Inhabited

inductive ParameterFault where
  | reservedName
  | reservedCharacters
  | alreadyDefined
  | brokenRegex (source : String)
deriving DecidableEq, Repr

def ParameterFault.message : ParameterFault → Reason
  | .reservedName => "name is reserved"
  | .reservedCharacters => "name contains reserved characters"
  | .alreadyDefined => "already defined"
  | .brokenRegex source => .refused "" (.expression source)

namespace Parameters

def builtinNames : List String := ["", "int", "float", "word", "string"]

def quotedOrWord : String := "\"(?:[^\"\\\\]|\\\\.)*\"|'(?:[^'\\\\]|\\\\.)*'|[^\\s\"']+"

def builtins : List (String × String) := [
  ("int", "(?:-?\\d+)|(?:\\d+)"),
  ("float", "[+-]?(?:inf|NaN|(?:\\d+|\\d+\\.\\d*|\\d*\\.\\d+)(?:[eE][+-]?\\d+)?)"),
  ("string", quotedOrWord),
  ("word", "[^\\s]+"),
  ("", ".*")]

def isReservedInName (c : Char) : Bool :=
  c = '{' || c = '}' || c = '(' || c = ')' || c = '\\' || c = '/' || c = ' '

def get? (p : Parameters) (name : String) : Option String := p.entries.lookup name

def isEmpty (p : Parameters) : Bool := p.entries.isEmpty

def define (p : Parameters) (name regex : String) : Except ParameterFault Parameters :=
  if name ∈ builtinNames then .error .reservedName
  else if name.toList.any isReservedInName then .error .reservedCharacters
  else if (p.get? name).isSome then .error .alreadyDefined
  else if (Regex.ofString? regex).isNone then .error (.brokenRegex regex)
  else .ok ⟨p.entries ++ [(name, regex)]⟩

def source? (p : Parameters) (name : String) : Option String :=
  (p.get? name).orElse fun _ => builtins.lookup name

end Parameters
end FeaturePlan
