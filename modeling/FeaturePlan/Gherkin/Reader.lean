import FeaturePlan.Text.Split

/-!
Reading a text from its start. A reader gives what it found and the text behind it, or fails, and then
another reader can be tried at the same place.
-/
namespace FeaturePlan
namespace Gherkin

abbrev Reader := StateT (List Char) Option

namespace Reader

variable {α : Type}

/-- Whether a line ends where the text begins. A carriage return belongs to the line feed behind it. -/
def endsLine : List Char → Bool
  | [] => true
  | '\n' :: _ => true
  | '\r' :: '\n' :: _ => true
  | _ => false

def splitLine : List Char → List Char × List Char
  | [] => ([], [])
  | c :: cs =>
    if endsLine (c :: cs) then ([], c :: cs)
    else (c :: (splitLine cs).1, (splitLine cs).2)

theorem splitLine_append : ∀ text, (splitLine text).1 ++ (splitLine text).2 = text
  | [] => rfl
  | c :: cs => by
    by_cases h : endsLine (c :: cs) = true
    · simp [splitLine, h]
    · simp [splitLine, h, splitLine_append cs]

theorem length_splitLine_snd_le (text : List Char) : (splitLine text).2.length ≤ text.length := by
  have := congrArg List.length (splitLine_append text)
  simp only [List.length_append] at this
  omega

def isSpace (c : Char) : Bool := c = ' ' || c = '\t'

/-- The text behind spaces, ends of lines and comments. A comment runs from a number sign to the end of
its line. -/
def afterGap : List Char → List Char
  | [] => []
  | c :: cs =>
    if isSpace c || c = '\n' || (c = '\r' && endsLine (c :: cs)) then afterGap cs
    else if c = '#' then afterGap (splitLine cs).2
    else c :: cs
termination_by text => text.length
decreasing_by
  · simp
  · have := length_splitLine_snd_le cs
    simp only [List.length_cons]
    omega

def gap : Reader Unit := modify afterGap

def spaces : Reader Unit := modify (·.dropWhile isSpace)

def check (holds : List Char → Bool) : Reader Unit := do
  guard (holds (← get))

def literal (expected : List Char) : Reader Unit := do
  check expected.isPrefixOf
  modify (·.drop expected.length)

def keyword (words : List String) : Reader String := fun text =>
  (words.find? fun word => word.toList.isPrefixOf text).map fun word =>
    (word, text.drop word.length)

def takeWhile (holds : Char → Bool) : Reader (List Char) := fun text =>
  some (text.takeWhile holds, text.dropWhile holds)

def restOfLine : Reader String := fun text =>
  some (String.ofList (splitLine text).1, (splitLine text).2)

def someOfLine : Reader String := do
  check (!endsLine ·)
  restOfLine

def upTo (mark : List Char) : Reader (List Char) := Text.splitAtMark? mark

/-- Reads things one behind the other until there is none or one takes no text. Each is read with
knowledge of the one before it. -/
def chainFrom (read : Option α → Reader α) (before : Option α) (text : List Char) :
    List α × List Char :=
  match read before text with
  | none => ([], text)
  | some (a, rest) =>
    if rest.length < text.length then
      let (others, left) := chainFrom read (some a) rest
      (a :: others, left)
    else ([], text)
termination_by text.length

def chain (read : Option α → Reader α) : Reader (List α) := fun text =>
  some (chainFrom read none text)

def many (read : Reader α) : Reader (List α) := chain fun _ => read

/-- The number of the line, if `last` is the number of the line at the end of the text. -/
def lineNumber (last : Nat) : Reader Nat := fun text => some (last - text.count '\n', text)

end Reader
end Gherkin
end FeaturePlan
