import FeaturePlan.Catalogue
import FeaturePlan.Characters.Category
import FeaturePlan.Characters.Folding
import FeaturePlan.Characters.Property
import FeaturePlan.Characters.Query
import FeaturePlan.Characters.Script
import FeaturePlan.Characters.Set
import FeaturePlan.Gherkin.Dialect.Asian
import FeaturePlan.Gherkin.Dialect.Basic
import FeaturePlan.Gherkin.Dialect.Cyrillic
import FeaturePlan.Gherkin.Dialect.English
import FeaturePlan.Gherkin.Dialect.Language
import FeaturePlan.Gherkin.Dialect.Latin
import FeaturePlan.Gherkin.Dialect.OtherScripts
import FeaturePlan.Gherkin.Document
import FeaturePlan.Gherkin.Error
import FeaturePlan.Gherkin.Expansion
import FeaturePlan.Gherkin.Grammar
import FeaturePlan.Gherkin.Reader
import FeaturePlan.Gherkin.Source
import FeaturePlan.Likeness.Merge
import FeaturePlan.Likeness.Ranking
import FeaturePlan.Likeness.Report
import FeaturePlan.Mode
import FeaturePlan.Pattern.Basic
import FeaturePlan.Pattern.Parameters
import FeaturePlan.Pattern.Phrase
import FeaturePlan.Pattern.PhraseReader
import FeaturePlan.Plan.Assembly
import FeaturePlan.Plan.Error
import FeaturePlan.Plan.Execution
import FeaturePlan.Plan.Naming
import FeaturePlan.Plan.Outcome
import FeaturePlan.Plan.Queues
import FeaturePlan.Proofs.Assembly.Agreement
import FeaturePlan.Proofs.Assembly.Counterpart
import FeaturePlan.Proofs.Assembly.Demand
import FeaturePlan.Proofs.Assembly.Draft
import FeaturePlan.Proofs.Assembly.Examples
import FeaturePlan.Proofs.Assembly.History
import FeaturePlan.Proofs.Assembly.Identity
import FeaturePlan.Proofs.Assembly.Isolation
import FeaturePlan.Proofs.Assembly.Keys
import FeaturePlan.Proofs.Assembly.Mirror
import FeaturePlan.Proofs.Assembly.Pairing
import FeaturePlan.Proofs.Assembly.Payload
import FeaturePlan.Proofs.Assembly.Places
import FeaturePlan.Proofs.Assembly.Prefix
import FeaturePlan.Proofs.Assembly.Reordering
import FeaturePlan.Proofs.Assembly.Resolution
import FeaturePlan.Proofs.Assembly.Run
import FeaturePlan.Proofs.Assembly.Shape
import FeaturePlan.Proofs.Assembly.Tags
import FeaturePlan.Proofs.Assembly.Verdict
import FeaturePlan.Proofs.Assembly.Views
import FeaturePlan.Proofs.Assembly.Walk
import FeaturePlan.Proofs.Catalogue
import FeaturePlan.Proofs.Gherkin.Conversion
import FeaturePlan.Proofs.Gherkin.Expansion
import FeaturePlan.Proofs.Gherkin.Interpolation
import FeaturePlan.Proofs.Gherkin.Places
import FeaturePlan.Proofs.Gherkin.Rejection
import FeaturePlan.Proofs.Gherkin.Shuffle
import FeaturePlan.Proofs.Likeness.Instances
import FeaturePlan.Proofs.Likeness.Merge
import FeaturePlan.Proofs.Likeness.Ranking
import FeaturePlan.Proofs.Likeness.Report
import FeaturePlan.Proofs.Lists
import FeaturePlan.Proofs.Outcome
import FeaturePlan.Proofs.Pattern.Faults
import FeaturePlan.Proofs.Queues
import FeaturePlan.Proofs.Queues.History
import FeaturePlan.Proofs.Scope.Candidates
import FeaturePlan.Proofs.Scope.Extension
import FeaturePlan.Proofs.Scope.Framing
import FeaturePlan.Proofs.Scope.Freshness
import FeaturePlan.Proofs.Scope.Identifier
import FeaturePlan.Proofs.Scope.Layout
import FeaturePlan.Proofs.Scope.Lineage
import FeaturePlan.Proofs.Scope.Listing
import FeaturePlan.Proofs.Scope.Operations
import FeaturePlan.Proofs.Scope.Program
import FeaturePlan.Proofs.Scope.Refinement
import FeaturePlan.Proofs.Scope.Registration
import FeaturePlan.Proofs.Scope.Showing
import FeaturePlan.Proofs.Scope.Tree
import FeaturePlan.Proofs.Scope.Walk
import FeaturePlan.Proofs.Scope.WellFormed
import FeaturePlan.Proofs.Step.Decision
import FeaturePlan.Proofs.Step.Growth
import FeaturePlan.Proofs.Step.Lookup
import FeaturePlan.Proofs.Step.Matching
import FeaturePlan.Proofs.Step.Rendering
import FeaturePlan.Proofs.Text
import FeaturePlan.Proofs.Text.Canonical
import FeaturePlan.Proofs.Text.EditDistance
import FeaturePlan.Proofs.Text.Paint
import FeaturePlan.Proofs.Text.Removals
import FeaturePlan.Proofs.Text.Runs
import FeaturePlan.Proofs.Text.Words
import FeaturePlan.Regex.Basic
import FeaturePlan.Regex.Matching
import FeaturePlan.Regex.Reader
import FeaturePlan.Regex.Refusal
import FeaturePlan.Scope.Blueprint
import FeaturePlan.Scope.Candidate
import FeaturePlan.Scope.Error
import FeaturePlan.Scope.Identifier
import FeaturePlan.Scope.Kind
import FeaturePlan.Scope.Node
import FeaturePlan.Scope.Program
import FeaturePlan.Scope.Registration
import FeaturePlan.Scope.Walk
import FeaturePlan.Settings
import FeaturePlan.Step.Definition
import FeaturePlan.Step.Error
import FeaturePlan.Step.Keyword
import FeaturePlan.Step.Lookup
import FeaturePlan.Step.Matchers
import FeaturePlan.Text.Blank
import FeaturePlan.Text.EditDistance
import FeaturePlan.Text.Indentation
import FeaturePlan.Text.Paint
import FeaturePlan.Text.Split
import FeaturePlan.Text.Template
import FeaturePlan.Text.WordDiff
import FeaturePlan.World
