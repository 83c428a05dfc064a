import FeaturePlan.Text.Blank

/-!
Identities of executions: identifiers of examples, qualified names, and tags gathered from several
places.
-/
namespace FeaturePlan
namespace Plan

def separator : String := " > "

/-- What stands for one node in a qualified name. The keyword comes without blanks around it. -/
def segment (keyword name id : String) : String :=
  Text.trim keyword ++ ": " ++ name ++ " [" ++ id ++ "]"

def joinSegments (segments : List String) : String := separator.intercalate segments

/-- The identifier of the example with the given number, from zero on, of a scope. -/
def exampleId (scope : String) (index : Nat) : String := scope ++ "#" ++ toString (index + 1)

/-- All tags in order, each where it occurs first. -/
def mergeTags (lists : List (List String)) : List String := lists.flatten.eraseDups

end Plan
end FeaturePlan
