import FeaturePlan.Gherkin.Dialect.Language
import FeaturePlan.Gherkin.Reader
import FeaturePlan.Gherkin.Source
import FeaturePlan.Text.Indentation

/-!
The grammar of features. A reader of a part takes the gap behind the part with it. Where a part has
several forms the first that can be read counts, and what no part takes makes the document malformed.
-/
namespace FeaturePlan
namespace Gherkin
namespace Grammar

open Reader

/-- What the readers of a document know: its keywords and the number of its last line. -/
structure Setting where
  dialect : Dialect
  lastLine : Nat

def tag : Reader String := do
  literal ['@']
  let name ← takeWhile fun c => !Text.isBlank c && c ≠ '@'
  guard (name ≠ [])
  gap
  return String.ofList name

def tags : Reader (List String) := many tag

structure Heading where
  keyword : String
  name : String
  line : Nat

def heading (s : Setting) (keywords : List String) : Reader Heading := do
  let line ← lineNumber s.lastLine
  let keyword ← keyword keywords
  literal [':']
  let name ← restOfLine
  gap
  return { keyword, name := Text.trim name, line }

def descriptionLine (stops : List String) : Reader String := do
  check fun text => text.head? ≠ some '@' && stops.all fun word => !word.toList.isPrefixOf text
  let line ← someOfLine
  gap
  return line

def description (stops : List String) : Reader (Option String) := do
  let text := "\n".intercalate (← many (descriptionLine stops))
  return if text.toList.all Text.isBlank then none else some text

def cell : Reader String := do
  literal ['|']
  spaces
  check (!endsLine ·)
  let text ← takeWhile (· ≠ '|')
  return Text.trim (String.ofList text)

def row : Reader (List String) := do
  let cells ← many cell
  literal ['|']
  spaces
  check endsLine
  gap
  return cells

/-- Reads a table. All its rows are cut to the length of the first, and none may be shorter. -/
def table : Reader (List (List String)) := do
  match ← many row with
  | [] => failure
  | first :: others =>
    guard (others.all (first.length ≤ ·.length))
    return first :: others.map (·.take first.length)

def quoted (mark : List Char) : Reader String := do
  literal mark
  let text ← upTo mark
  check fun rest => endsLine rest || rest.head?.any isSpace
  gap
  return Text.dedent (String.ofList text)

def docString : Reader String := quoted ['"', '"', '"'] <|> quoted ("```".toList)

def stepOf (s : Setting) (keywords : List String) (type : StepType) : Reader Source.Step := do
  let line ← lineNumber s.lastLine
  let keyword ← keyword keywords
  let text ← someOfLine
  gap
  let docString ← optional docString
  let table ← optional table
  return { keyword, type, text := Text.trim text, docString, table, line }

/-- Reads a step. A conjunction has the type of the step before it, and there must be one. -/
def step (s : Setting) (before : Option Source.Step) : Reader Source.Step :=
  let conjunction (keywords : List String) : Reader Source.Step :=
    match before with
    | some b => stepOf s keywords b.type
    | none => failure
  stepOf s s.dialect.context .context <|> stepOf s s.dialect.action .action <|>
    stepOf s s.dialect.outcome .outcome <|> conjunction s.dialect.and <|> conjunction s.dialect.but

def steps (s : Setting) : Reader (List Source.Step) := chain (step s)

def background (s : Setting) : Reader Source.Background := do
  let h ← heading s s.dialect.background
  let _ ← description s.dialect.endsSteps
  return { keyword := h.keyword, steps := ← steps s }

def examples (s : Setting) : Reader Source.Examples := do
  let tags ← tags
  let h ← heading s s.dialect.examples
  let _ ← description s.dialect.endsExamples
  let table ← optional table
  return { keyword := h.keyword, name := h.name, tags, table := table.getD [], line := h.line }

def scenario (s : Setting) : Reader Source.Scenario := do
  let tags ← tags
  let h ← heading s s.dialect.scenario <|> heading s s.dialect.outline
  let _ ← description s.dialect.endsSteps
  return { keyword := h.keyword, name := h.name, tags, steps := ← steps s,
           examples := ← many (examples s), line := h.line }

def rule (s : Setting) : Reader Source.Rule := do
  let tags ← tags
  let h ← heading s s.dialect.rule
  let _ ← description s.dialect.endsRule
  return { keyword := h.keyword, name := h.name, tags, background := ← optional (background s),
           scenarios := ← many (scenario s), line := h.line }

def feature (s : Setting) : Reader Source.Feature := do
  gap
  let tags ← tags
  let h ← heading s s.dialect.feature
  let description ← description s.dialect.endsFeature
  let background ← optional (background s)
  let scenarios ← many (scenario s)
  let rules ← many (rule s)
  check List.isEmpty
  return { keyword := h.keyword, name := h.name, description, tags, background, scenarios, rules }

def languageTag : Reader String := do
  spaces
  literal "# language: ".toList
  someOfLine

def dialect? (text : List Char) : Option Dialect :=
  match languageTag text with
  | some (tag, _) => Dialect.ofTag? tag
  | none => some .english

def closeLine (text : List Char) : List Char :=
  if text.getLast? = some '\n' then text else text ++ ['\n']

end Grammar

def Source.Feature.ofString? (text : String) : Option Source.Feature := do
  let chars := Grammar.closeLine text.toList
  let dialect ← Grammar.dialect? chars
  let (feature, _) ← Grammar.feature { dialect, lastLine := chars.count '\n' + 1 } chars
  return feature

end Gherkin
end FeaturePlan
