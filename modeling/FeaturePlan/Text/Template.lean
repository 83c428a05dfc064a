import FeaturePlan.Text.Blank

/-!
Texts with placeholders. A placeholder is a name between angle brackets, without white space and without
a closing bracket in it. Filling replaces every placeholder by the value of its name and keeps all else.
-/
namespace FeaturePlan
namespace Text

inductive TemplatePart where
  | char (c : Char)
  | placeholder (name : List Char)
deriving DecidableEq, Repr

/-- The text that a part was read from. -/
def TemplatePart.source : TemplatePart → List Char
  | .char c => [c]
  | .placeholder name => '<' :: name ++ ['>']

def isNameChar (c : Char) : Bool := c ≠ '>' && !isBlank c

def placeholder? : List Char → Option (List Char × List Char)
  | '<' :: text =>
    match text.takeWhile isNameChar, text.dropWhile isNameChar with
    | c :: name, '>' :: rest => some (c :: name, rest)
    | _, _ => none
  | _ => none

theorem eq_of_placeholder?_eq_some {text name rest : List Char}
    (h : placeholder? text = some (name, rest)) : text = '<' :: name ++ '>' :: rest := by
  unfold placeholder? at h
  split at h
  · rename_i text
    split at h
    · rename_i c name' rest' hname hrest
      have := List.takeWhile_append_dropWhile (p := isNameChar) (l := text)
      simp only [Option.some.injEq, Prod.mk.injEq] at h
      rw [← this, hname, hrest, ← h.1, ← h.2]
      simp
    · simp at h
  · simp at h

/-- The parts of a text. Of overlapping placeholders the leftmost counts. -/
def templateParts : List Char → List TemplatePart
  | [] => []
  | c :: cs =>
    match _h : placeholder? (c :: cs) with
    | some (name, rest) => .placeholder name :: templateParts rest
    | none => .char c :: templateParts cs
termination_by text => text.length
decreasing_by
  · have := congrArg List.length (eq_of_placeholder?_eq_some _h)
    simp only [List.length_append, List.length_cons] at this ⊢
    omega
  · simp

def TemplatePart.fill (value? : String → Option String) : TemplatePart → Except String (List Char)
  | .char c => .ok [c]
  | .placeholder name =>
    match value? (String.ofList name) with
    | some value => .ok value.toList
    | none => .error (String.ofList name)

/-- The text with the values of its placeholders, or the first name that has none. -/
def fillTemplate (value? : String → Option String) (text : String) : Except String String := do
  let pieces ← (templateParts text.toList).mapM (TemplatePart.fill value?)
  return String.ofList pieces.flatten

end Text
end FeaturePlan
