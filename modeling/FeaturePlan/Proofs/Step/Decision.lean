import FeaturePlan.Proofs.Lists
import FeaturePlan.Proofs.Step.Lookup

/-!
Which definition decides what a step is. It is the first one that accepts the step and either matches its text
or has a pattern that does not compile; the definitions behind it, and those that do not accept the step, play
no part. Without such a definition the step is unmatched, and the report tells where it stands.
-/
namespace FeaturePlan

namespace StepDefinition

/-- The pattern of the definition compiles to an expression that does not match the text of the step. -/
def Rejects (params : Parameters) (d : StepDefinition) (step : Gherkin.Step) : Prop :=
  ∃ r, d.pattern.compile params = .ok r ∧ r.matchesText step.text = false

variable {params : Parameters} {d : StepDefinition} {step : Gherkin.Step}

theorem verdict_eq_true_iff : d.verdict params step.text = .ok true ↔ d.Matches params step := by
  rw [verdict, Matches]
  cases d.pattern.compile params <;> simp

theorem verdict_eq_false_iff : d.verdict params step.text = .ok false ↔ d.Rejects params step := by
  rw [verdict, Rejects]
  cases d.pattern.compile params <;> simp

theorem verdict_eq_error_iff {e : StepError} : d.verdict params step.text = .error e ↔
    ∃ fault, d.pattern.compile params = .error fault ∧ e = .invalidPattern d.source fault.message := by
  rw [verdict]
  cases d.pattern.compile params <;> simp [eq_comm]

theorem Rejects.not_matches (h : d.Rejects params step) : ¬ d.Matches params step := by
  rw [← verdict_eq_false_iff] at h
  rw [← verdict_eq_true_iff, h]
  simp

end StepDefinition

/-- The headings of a report from the outside inwards, each with the next one under it and nothing else. Only
the innermost one has suggestions. -/
inductive Report.Chain (suggestions : Likeness.Suggestions) : List String → Report → Prop
  | innermost (heading : String) : Chain suggestions [heading] (.node heading (some suggestions) [])
  | around {heading : String} {headings : List String} {inner : Report} (h : Chain suggestions headings inner) :
      Chain suggestions (heading :: headings) (.node heading none [inner])

theorem Report.chain_iff {suggestions : Likeness.Suggestions} {headings : List String} {last : String}
    {r : Report} : Chain suggestions (headings ++ [last]) r ↔
      r = Lookup.nest headings (.node last (some suggestions) []) := by
  induction headings generalizing r with
  | nil =>
    constructor
    · intro h
      cases h with
      | innermost => rfl
      | around h => cases h
    · rintro rfl
      exact .innermost last
  | cons heading headings ih =>
    constructor
    · intro h
      rw [List.cons_append] at h
      generalize hall : headings ++ [last] = rest at h ih
      cases h with
      | innermost => simp at hall
      | around h =>
        rw [ih.1 h]
        rfl
    · rintro rfl
      exact .around (ih.2 rfl)

open Matching

namespace Lookup

/-- The names around a step as headings, and the step itself. -/
def Context.headings (ctx : Context) (step : Gherkin.Step) : List String :=
  ("Feature: " ++ ctx.feature) :: ((ctx.rule.map ("Rule: " ++ ·)).toList ++
    (ctx.outline.map ("Scenario Outline: " ++ ·)).toList ++
    ["Scenario: " ++ ctx.scenario, "Step: " ++ step.describe])

/-- What is said of a step without a definition. -/
structure Tells (definitions : List StepDefinition) (limit : Nat) (ctx : Context) (step : Gherkin.Step)
    (u : UnmatchedStep) : Prop where
  report : u.report.Chain (Likeness.rank step.text step.type definitions limit) (ctx.headings step)
  step : u.step = step.describe
  scenario : u.scenario = ctx.scenario
  outline : u.outline = ctx.outline
  rule : u.rule = ctx.rule
  feature : u.feature = ctx.feature

def unmatched (definitions : List StepDefinition) (limit : Nat) (ctx : Context) (step : Gherkin.Step) :
    UnmatchedStep where
  step := step.describe
  scenario := ctx.scenario
  outline := ctx.outline
  rule := ctx.rule
  feature := ctx.feature
  report := report ctx step (suggest definitions limit step)

theorem tells_iff {definitions : List StepDefinition} {limit : Nat} {ctx : Context} {step : Gherkin.Step}
    {u : UnmatchedStep} : Tells definitions limit ctx step u ↔ u = unmatched definitions limit ctx step := by
  have hreport : u.report.Chain (Likeness.rank step.text step.type definitions limit) (ctx.headings step) ↔
      u.report = report ctx step (suggest definitions limit step) := by
    have hheadings : ctx.headings step = (["Feature: " ++ ctx.feature] ++
        (ctx.rule.map ("Rule: " ++ ·)).toList ++ (ctx.outline.map ("Scenario Outline: " ++ ·)).toList ++
        ["Scenario: " ++ ctx.scenario]) ++ ["Step: " ++ step.describe] := by
      simp [Context.headings]
    rw [hheadings, Report.chain_iff]
    rfl
  constructor
  · intro h
    obtain ⟨uStep, uScenario, uOutline, uRule, uFeature, uReport⟩ := u
    obtain ⟨hchain, rfl, rfl, rfl, rfl, rfl⟩ := h
    rw [unmatched, ← hreport.1 hchain]
  · rintro rfl
    exact ⟨hreport.2 rfl, rfl, rfl, rfl, rfl, rfl⟩

variable {params : Parameters} {step : Gherkin.Step}

/-- Whether the search for a definition ends with what one says of the step. -/
def isFinal : Except StepError Bool → Bool
  | .ok matched => matched
  | .error _ => true

def decides (params : Parameters) (step : Gherkin.Step) (d : StepDefinition) : Bool :=
  fits step d && isFinal (d.verdict params step.text)

theorem decides_iff {d : StepDefinition} :
    decides params step d = true ↔ d.Accepts step ∧ ¬ d.Rejects params step := by
  rw [decides, Bool.and_eq_true, StepDefinition.fits_iff, ← StepDefinition.verdict_eq_false_iff]
  refine and_congr_right fun _ => ?_
  rcases d.verdict params step.text with e | (_ | _) <;> simp [isFinal]

theorem find?_outcome (step : Gherkin.Step) (definitions : List StepDefinition) {μ : Matchers} (hμ : μ.Sound params) :
    ((find? params step definitions).outcome μ).1 =
      match definitions.find? (decides params step) with
      | none => .ok none
      | some d => (d.verdict params step.text).map fun _ => some d := by
  induction definitions generalizing μ with
  | nil => rfl
  | cons d ds ih =>
    unfold find?
    split
    · next hfits =>
      -- What asking a definition keeps is sound again, so the search goes on as it began.
      obtain ⟨μ', hresult, hsound⟩ := d.matchesText_outcome step.text hμ
      have hdecides : decides params step d = isFinal (d.verdict params step.text) := by
        rw [decides, hfits, Bool.true_and]
      rw [outcome_bind, hresult]
      rcases hverdict : d.verdict params step.text with e | (_ | _) <;> rw [hverdict] at hdecides
      · rw [List.find?_cons_of_pos hdecides]
        simp only [hverdict]
        rfl
      · rw [List.find?_cons_of_neg (by simp [hdecides, isFinal])]
        exact ih hsound
      · rw [List.find?_cons_of_pos hdecides]
        simp only [hverdict]
        rfl
    · next hfits =>
      rw [List.find?_cons_of_neg (by simp [decides, hfits])]
      exact ih hμ

theorem resolve_outcome (definitions : List StepDefinition) (limit : Nat) (ctx : Context) {μ : Matchers}
    (hμ : μ.Sound params) :
    ((resolve params definitions limit ctx step).outcome μ).1 =
      match definitions.find? (decides params step) with
      | none => .error (.noMatch (unmatched definitions limit ctx step))
      | some d => (d.verdict params step.text).map fun _ => d := by
  have hfound := find?_outcome step definitions hμ
  rw [resolve, outcome_bind]
  rcases hresult : (find? params step definitions).outcome μ with ⟨result, μ'⟩
  rw [hresult] at hfound
  dsimp only at hfound
  subst hfound
  cases definitions.find? (decides params step) with
  | none => rfl
  | some d =>
    dsimp only
    cases d.verdict params step.text <;> rfl

theorem not_decides_iff {d : StepDefinition} :
    (!decides params step d) = true ↔ (d.Accepts step → d.Rejects params step) := by
  rw [Bool.not_eq_true', ← Bool.not_eq_true, decides_iff]
  tauto

theorem decides_of_matches {d : StepDefinition} (h : d.Defines params step) :
    decides params step d = true ∧ d.verdict params step.text = .ok true := by
  have hverdict := StepDefinition.verdict_eq_true_iff.2 h.2
  exact ⟨by rw [decides, (d.fits_iff step).2 h.1, hverdict]; rfl, hverdict⟩

theorem decides_of_fault {d : StepDefinition} {fault : PatternFault} (haccepts : d.Accepts step)
    (h : d.pattern.compile params = .error fault) :
    decides params step d = true ∧
      d.verdict params step.text = .error (.invalidPattern d.source fault.message) := by
  have hverdict : d.verdict params step.text = .error (.invalidPattern d.source fault.message) :=
    StepDefinition.verdict_eq_error_iff.2 ⟨fault, h, rfl⟩
  exact ⟨by rw [decides, (d.fits_iff step).2 haccepts, hverdict]; rfl, hverdict⟩

theorem decides_cases {d : StepDefinition} (h : decides params step d = true) :
    (d.Defines params step ∧ d.verdict params step.text = .ok true) ∨
      ∃ fault, d.Accepts step ∧ d.pattern.compile params = .error fault ∧
        d.verdict params step.text = .error (.invalidPattern d.source fault.message) := by
  obtain ⟨haccepts, hdecides⟩ := decides_iff.1 h
  rcases hverdict : d.verdict params step.text with e | (_ | _)
  · obtain ⟨fault, hfault, rfl⟩ := StepDefinition.verdict_eq_error_iff.1 hverdict
    exact .inr ⟨fault, haccepts, hfault, rfl⟩
  · exact absurd (StepDefinition.verdict_eq_false_iff.1 hverdict) hdecides
  · exact .inl ⟨⟨haccepts, StepDefinition.verdict_eq_true_iff.1 hverdict⟩, rfl⟩

/-- A search through the definitions comes to one of them: those before it that accept the step reject it. -/
def Reaches (params : Parameters) (definitions : List StepDefinition) (step : Gherkin.Step)
    (d : StepDefinition) : Prop :=
  ∃ before after, definitions = before ++ d :: after ∧
    ∀ d' ∈ before, d'.Accepts step → d'.Rejects params step

theorem find?_decides_iff {definitions : List StepDefinition} {d : StepDefinition} :
    definitions.find? (decides params step) = some d ↔
      decides params step d = true ∧ Reaches params definitions step d := by
  simp only [List.find?_eq_some_iff_append, not_decides_iff, Reaches]

theorem find?_decides_eq_none_iff {definitions : List StepDefinition} :
    definitions.find? (decides params step) = none ↔
      ∀ d ∈ definitions, d.Accepts step → d.Rejects params step := by
  simp only [List.find?_eq_none, ← not_decides_iff, Bool.not_eq_true, Bool.not_eq_true']

variable {definitions : List StepDefinition} {limit : Nat} {ctx : Context} {μ : Matchers}

theorem resolve_of_reaches (limit : Nat) (ctx : Context) (hμ : μ.Sound params) {d : StepDefinition}
    (hdecides : decides params step d = true) (hreached : Reaches params definitions step d) :
    ((resolve params definitions limit ctx step).outcome μ).1 = (d.verdict params step.text).map fun _ => d := by
  rw [resolve_outcome definitions limit ctx hμ, find?_decides_iff.2 ⟨hdecides, hreached⟩]

theorem resolve_cases (hμ : μ.Sound params) (definitions : List StepDefinition) (limit : Nat) (ctx : Context) :
    (∃ d, d.Defines params step ∧ Reaches params definitions step d ∧
      ((resolve params definitions limit ctx step).outcome μ).1 = .ok d) ∨
    (∃ d fault, d.Accepts step ∧ d.pattern.compile params = .error fault ∧
      Reaches params definitions step d ∧ ((resolve params definitions limit ctx step).outcome μ).1 =
        .error (.invalidPattern d.source fault.message)) ∨
    ((∀ d ∈ definitions, d.Accepts step → d.Rejects params step) ∧
      ((resolve params definitions limit ctx step).outcome μ).1 =
        .error (.noMatch (unmatched definitions limit ctx step))) := by
  cases hfound : definitions.find? (decides params step) with
  | none =>
    refine .inr (.inr ⟨find?_decides_eq_none_iff.1 hfound, ?_⟩)
    rw [resolve_outcome definitions limit ctx hμ, hfound]
  | some d =>
    obtain ⟨hdecides, hreached⟩ := find?_decides_iff.1 hfound
    have hresult := resolve_of_reaches limit ctx hμ hdecides hreached
    rcases decides_cases hdecides with ⟨hdefines, hverdict⟩ | ⟨fault, haccepts, hfault, hverdict⟩ <;>
      rw [hverdict] at hresult
    · exact .inl ⟨d, hdefines, hreached, hresult⟩
    · exact .inr (.inl ⟨d, fault, haccepts, hfault, hreached, hresult⟩)

theorem resolve_eq_ok_iff (hμ : μ.Sound params) (d : StepDefinition) :
    ((resolve params definitions limit ctx step).outcome μ).1 = .ok d ↔
      d.Defines params step ∧ Reaches params definitions step d := by
  constructor
  · intro h
    rcases resolve_cases hμ definitions limit ctx with
      ⟨d', hdefines, hreached, hresult⟩ | ⟨d', fault, -, -, -, hresult⟩ | ⟨-, hresult⟩ <;>
      rw [hresult] at h <;> cases h
    exact ⟨hdefines, hreached⟩
  · rintro ⟨hdefines, hreached⟩
    obtain ⟨hdecides, hverdict⟩ := decides_of_matches hdefines
    rw [resolve_of_reaches limit ctx hμ hdecides hreached, hverdict]
    rfl

theorem resolve_eq_invalidPattern_iff (hμ : μ.Sound params) (source : String) (reason : Reason) :
    ((resolve params definitions limit ctx step).outcome μ).1 = .error (.invalidPattern source reason) ↔
      ∃ d fault, d.Accepts step ∧ d.pattern.compile params = .error fault ∧
        source = d.source ∧ reason = fault.message ∧ Reaches params definitions step d := by
  constructor
  · intro h
    rcases resolve_cases hμ definitions limit ctx with
      ⟨d, -, -, hresult⟩ | ⟨d, fault, haccepts, hfault, hreached, hresult⟩ | ⟨-, hresult⟩ <;>
      rw [hresult] at h <;> cases h
    exact ⟨d, fault, haccepts, hfault, rfl, rfl, hreached⟩
  · rintro ⟨d, fault, haccepts, hfault, rfl, rfl, hreached⟩
    obtain ⟨hdecides, hverdict⟩ := decides_of_fault haccepts hfault
    rw [resolve_of_reaches limit ctx hμ hdecides hreached, hverdict]
    rfl

theorem resolve_eq_noMatch_iff (hμ : μ.Sound params) (u : UnmatchedStep) :
    ((resolve params definitions limit ctx step).outcome μ).1 = .error (.noMatch u) ↔
      (∀ d ∈ definitions, d.Accepts step → d.Rejects params step) ∧ Tells definitions limit ctx step u := by
  rw [tells_iff]
  constructor
  · intro h
    rcases resolve_cases hμ definitions limit ctx with
      ⟨d, -, -, hresult⟩ | ⟨d, fault, -, -, -, hresult⟩ | ⟨hrejects, hresult⟩ <;>
      rw [hresult] at h <;> cases h
    exact ⟨hrejects, rfl⟩
  · rintro ⟨hrejects, rfl⟩
    rw [resolve_outcome definitions limit ctx hμ, find?_decides_eq_none_iff.2 hrejects]

theorem resolve_congr (hμ : μ.Sound params) {definitions' : List StepDefinition} {limit' : Nat}
    {ctx' : Context} {μ' : Matchers} (hμ' : μ'.Sound params) {shared : List StepDefinition}
    {d : StepDefinition} (hd : d ∈ shared) (hdecides : decides params step d = true)
    (h : shared <+: definitions.filter (fits step)) (h' : shared <+: definitions'.filter (fits step)) :
    ((resolve params definitions limit ctx step).outcome μ).1 =
      ((resolve params definitions' limit' ctx' step).outcome μ').1 := by
  have hfilter (ds : List StepDefinition) :
      ds.find? (decides params step) = (ds.filter (fits step)).find? (decides params step) := by
    rw [List.find?_filter]
    congr 1
    funext d
    simp [decides]
  obtain ⟨first, hfirst⟩ := Option.isSome_iff_exists.1 (List.find?_isSome.2 ⟨d, hd, hdecides⟩)
  have hfound {ds : List StepDefinition} (hshared : shared <+: ds.filter (fits step)) :
      ds.find? (decides params step) = some first := by
    obtain ⟨rest, hrest⟩ := hshared
    rw [hfilter, ← hrest, List.find?_append, hfirst, Option.some_or]
  rw [resolve_outcome definitions limit ctx hμ, resolve_outcome definitions' limit' ctx' hμ', hfound h, hfound h']

/-- What a step is resolved to among definitions. -/
structure Decided (params : Parameters) (definitions : List StepDefinition) (limit : Nat) (ctx : Context)
    (step : Gherkin.Step) (result : Except StepError StepDefinition) : Prop where
  ok_iff : ∀ d, result = .ok d ↔ d.Defines params step ∧ Reaches params definitions step d
  invalidPattern_iff : ∀ source reason, result = .error (.invalidPattern source reason) ↔
    ∃ d fault, d.Accepts step ∧ d.pattern.compile params = .error fault ∧
      source = d.source ∧ reason = fault.message ∧ Reaches params definitions step d
  noMatch_iff : ∀ u, result = .error (.noMatch u) ↔
    (∀ d ∈ definitions, d.Accepts step → d.Rejects params step) ∧ Tells definitions limit ctx step u

/-- The first definition that accepts a step and does not reject it decides what it is resolved to. Whatever
else differs between two lists, they give the same if they agree on the accepting definitions up to that one.
Definitions may have been asked before, with these parameter types or with ones that these have grown from, and
`Sound` leaves out only what was asked with others. -/
theorem resolve_decided (definitions : List StepDefinition) (limit : Nat) (ctx : Context)
    (step : Gherkin.Step) {μ : Matchers} (hμ : μ.Sound params) :
    Decided params definitions limit ctx step ((resolve params definitions limit ctx step).outcome μ).1 ∧
      ∀ definitions' limit' ctx' μ', μ'.Sound params →
        ∀ shared d, d ∈ shared → ¬ d.Rejects params step →
          shared <+: definitions.filter (fits step) → shared <+: definitions'.filter (fits step) →
          ((resolve params definitions limit ctx step).outcome μ).1 =
            ((resolve params definitions' limit' ctx' step).outcome μ').1 := by
  refine ⟨⟨resolve_eq_ok_iff hμ, resolve_eq_invalidPattern_iff hμ, resolve_eq_noMatch_iff hμ⟩, ?_⟩
  intro definitions' limit' ctx' μ' hμ' shared d hd hrejects h h'
  have haccepts : d.Accepts step := (d.fits_iff step).1 (List.mem_filter.1 (h.subset hd)).2
  exact resolve_congr hμ hμ' hd (decides_iff.2 ⟨haccepts, hrejects⟩) h h'

section Stall

def stallStep : Gherkin.Step where
  keyword := "When"
  type := .action
  conjunction := false
  text := "I buy 2 figs"
  line := 3

def stallContext : Context where
  feature := "Shop"
  scenario := "Buying"

def stallDefinition (keyword : StepType) (source : String) : StepDefinition where
  id := ⟨source⟩
  keyword := .typed keyword
  pattern := .phrase source

/-- A definition of another type that does not compile, one that does not match, one that matches, and one that
does not compile for want of a parameter. -/
def stallDefinitions : List StepDefinition :=
  [stallDefinition .outcome "I buy \x7b", stallDefinition .action "I eat {} fig(s)",
    stallDefinition .action "I buy {} fig(s)", stallDefinition .action "I buy {fruit}"]

theorem stall_decided :
    ((resolve {} stallDefinitions 5 stallContext stallStep).outcome {}).1 =
        .ok (stallDefinition .action "I buy {} fig(s)") ∧
      ((resolve {} stallDefinitions.tail.dropLast 0 stallContext stallStep).outcome {}).1 =
        .ok (stallDefinition .action "I buy {} fig(s)") := by
  have hbuy : (stallDefinition .action "I buy {} fig(s)").verdict {} stallStep.text = .ok true :=
    eq_ok_of_toOption (by decide +kernel)
  have heat : (stallDefinition .action "I eat {} fig(s)").verdict {} stallStep.text = .ok false :=
    eq_ok_of_toOption (by decide +kernel)
  have hmatches := StepDefinition.verdict_eq_true_iff.1 hbuy
  have hrejects := StepDefinition.verdict_eq_false_iff.1 heat
  have haccepts : (stallDefinition .action "I buy {} fig(s)").Accepts stallStep := .inr (.inr rfl)
  obtain ⟨hdecided, hagree⟩ := resolve_decided stallDefinitions 5 stallContext stallStep
    (Matchers.sound_empty {})
  have hreached : Reaches {} stallDefinitions stallStep (stallDefinition .action "I buy {} fig(s)") := by
    refine ⟨stallDefinitions.take 2, [stallDefinition .action "I buy {fruit}"], rfl, fun d hd haccepts => ?_⟩
    simp only [stallDefinitions, List.take_succ_cons, List.take_zero, List.mem_cons, List.not_mem_nil,
      or_false] at hd
    rcases hd with rfl | rfl
    · rcases haccepts with h | h | h <;> cases h
    · exact hrejects
  have hfound := (hdecided.ok_iff _).2 ⟨⟨haccepts, hmatches⟩, hreached⟩
  refine ⟨hfound, ?_⟩
  rw [← hagree stallDefinitions.tail.dropLast 0 stallContext {} (Matchers.sound_empty {})
    [stallDefinition .action "I eat {} fig(s)", stallDefinition .action "I buy {} fig(s)"]
    (stallDefinition .action "I buy {} fig(s)") (by simp) ?_ (by decide) (by decide)]
  · exact hfound
  · rw [← StepDefinition.verdict_eq_false_iff, hbuy]
    simp

end Stall

end Lookup
end FeaturePlan
