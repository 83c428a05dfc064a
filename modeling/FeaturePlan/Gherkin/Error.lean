/-!
What can be wrong with a document.
-/
namespace FeaturePlan
namespace Gherkin

inductive DocumentError where
  | malformed
  | malformedFile
  | unreadableFile (path : String)
  /-- A placeholder names no column of the examples. -/
  | unknownPlaceholder (name : String) (line : Nat) (outline : String)
deriving DecidableEq, Repr

def DocumentError.message : DocumentError → String
  | .malformed => "Failed to parse feature"
  | .malformedFile => "Failed to parse feature file"
  | .unreadableFile path => "Failed to parse feature file: Could not read path: " ++ path
  | .unknownPlaceholder name line outline =>
    "Failed to resolve <" ++ name ++ "> at line " ++ toString line ++ " of outline \"" ++ outline ++ "\""

end Gherkin
end FeaturePlan
