import FeaturePlan.Gherkin.Document
import FeaturePlan.Gherkin.Error
import FeaturePlan.Gherkin.Grammar
import FeaturePlan.Text.Template

/-!
What a written feature stands for. Scenarios with examples are outlines and are expanded: every row of
examples makes a scenario of its own. The parts of a feature are put into the order of their lines.
-/
namespace FeaturePlan
namespace Gherkin

def Step.ofSource (s : Source.Step) : Step :=
  let keyword := Text.trim s.keyword
  { keyword, type := s.type, conjunction := keyword = "And" || keyword = "But" || keyword = "*",
    text := s.text, docString := s.docString, table := s.table, line := s.line }

def Background.ofSource (b : Source.Background) : Background :=
  { keyword := b.keyword, steps := b.steps.map Step.ofSource }

def ExampleGroup.ofSource (e : Source.Examples) : ExampleGroup :=
  { id := "examples-" ++ toString e.line, keyword := e.keyword, name := e.name, tags := e.tags,
    header := e.table.headD [], rows := e.table.tail }

/-- The values of the columns in a row. What one of the two has more than the other is left out. -/
def ExampleGroup.values (g : ExampleGroup) (row : List String) : List (String × String) :=
  g.header.zip row

/-- A text with the given values in place of its placeholders. Of columns with one name the first counts.
The line is where a placeholder without a column is said to stand. -/
def Outline.interpolate (o : Outline) (values : List (String × String)) (line : Nat) (text : String) :
    Except DocumentError String :=
  (Text.fillTemplate (fun name => values.lookup name) text).mapError fun name =>
    .unknownPlaceholder name line o.name

def Step.fill (fill : String → Except DocumentError String) (s : Step) : Except DocumentError Step := do
  let text ← fill s.text
  let docString ← s.docString.mapM fill
  let table ← s.table.mapM (·.mapM (·.mapM fill))
  return { s with text, docString, table }

def Outline.rows (o : Outline) : List (ExampleGroup × List String) :=
  o.groups.flatMap fun g => g.rows.map fun row => (g, row)

def Outline.example (o : Outline) (index : Nat) (group : ExampleGroup) (row : List String) :
    Except DocumentError Example := do
  let fill := o.interpolate (group.values row)
  let steps ← o.steps.mapM fun s => s.fill (fill s.line)
  let name ← fill o.line o.name
  return { index, groupId := group.id, name, tags := (o.tags ++ group.tags).eraseDups, steps }

/-- The outline with the examples that its rows make, numbered through all groups. -/
def Outline.expand (o : Outline) : Except DocumentError Outline := do
  let examples ← o.rows.zipIdx.mapM fun ((group, row), index) => o.example index group row
  return { o with examples }

/-- A scenario with examples is an outline, whatever its keyword. -/
def Node.ofSource (s : Source.Scenario) : Except DocumentError Node :=
  let steps := s.steps.map Step.ofSource
  if s.examples.isEmpty then
    .ok (.scenario { keyword := s.keyword, name := s.name, tags := s.tags, steps, line := s.line })
  else
    let outline : Outline :=
      { keyword := s.keyword, name := s.name, tags := s.tags, steps,
        groups := s.examples.map ExampleGroup.ofSource, examples := [], line := s.line }
    outline.expand.map .outline

/-- Things in the order of their lines. Those of one line stay in the given order. -/
def byLine {α : Type} (line : α → Nat) (things : List α) : List α :=
  things.mergeSort fun a b => line a ≤ line b

def Rule.ofSource (r : Source.Rule) : Except DocumentError Rule := do
  let nodes ← (byLine Source.Scenario.line r.scenarios).mapM Node.ofSource
  return { keyword := r.keyword, name := r.name, tags := r.tags,
           background := r.background.map Background.ofSource, nodes }

inductive Source.Part where
  | scenario (scenario : Source.Scenario)
  | rule (rule : Source.Rule)

def Source.Part.line : Source.Part → Nat
  | .scenario s => s.line
  | .rule r => r.line

/-- The scenarios of a feature, and behind those of the same line its rules. -/
def Source.Feature.parts (f : Source.Feature) : List Source.Part :=
  byLine Source.Part.line (f.scenarios.map .scenario ++ f.rules.map .rule)

def Element.ofSource : Source.Part → Except DocumentError Element
  | .scenario s => (Node.ofSource s).map .node
  | .rule r => (Rule.ofSource r).map .rule

/-- The document that a feature stands for. Of several faults the first counts. -/
def Document.ofSource (f : Source.Feature) (path : Option String := none) :
    Except DocumentError Document := do
  let elements ← f.parts.mapM Element.ofSource
  return { keyword := f.keyword, name := f.name, description := f.description, tags := f.tags,
           background := f.background.map Background.ofSource, elements, path }

def Document.ofString (text : String) : Except DocumentError Document :=
  match Source.Feature.ofString? text with
  | some feature => Document.ofSource feature
  | none => .error .malformed

def Document.ofFile (path : String) (content : Option String) : Except DocumentError Document :=
  match content with
  | none => .error (.unreadableFile path)
  | some text =>
    match Source.Feature.ofString? text with
    | some feature => Document.ofSource feature (some path)
    | none => .error .malformedFile

end Gherkin
end FeaturePlan
