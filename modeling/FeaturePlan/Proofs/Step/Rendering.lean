import FeaturePlan.Proofs.Likeness.Report
import FeaturePlan.Proofs.Pattern.Faults
import FeaturePlan.Proofs.Step.Decision

/-!
What is written of a lookup that fails. There are two kinds of such failures. One tells of a pattern, and quotes
nothing but the pattern unless an expression is refused, of which others say what they like; the other one tells
of a step, with a report that is never empty and has all that the message names among its headings.
-/
namespace FeaturePlan

open Matching Paint

theorem Phrase.Fault.bare_explanation (f : Fault) : Bare f.explanation.1 ∧ Bare f.explanation.2 := by
  cases f <;> simp only [explanation, bare_append] <;> and_intros <;> exact bare_ofList.2 (by decide)

theorem Phrase.Failure.bare_message {f : Failure} (h : escape ∉ f.shown) : Bare f.message := by
  obtain ⟨hfault, hadvice⟩ := f.fault.bare_explanation
  have hfeed : Bare "\n" := by decide
  simp only [Failure.message, bare_append]
  exact ⟨⟨⟨⟨bare_ofList.2 h, hfeed⟩, hfault⟩, hfeed⟩, hadvice⟩

/-- If an expression is refused, what is said of it has no escape character in it. -/
def Reason.Plain (r : Reason) (wording : Wording) : Prop :=
  match r with
  | .said _ => True
  | .refused _ refusal => Bare (wording refusal)

theorem PatternFault.bare_message {fault : PatternFault} {wording : Wording} (h : escape ∉ fault.quoted)
    (hplain : fault.message.Plain wording) : Bare (fault.message.text wording) := by
  cases fault with
  | brokenPhrase failure =>
    show Bare ("Parsing failed: " ++ failure.message)
    exact bare_append.2 ⟨bare_ofList.2 (by decide), Phrase.Failure.bare_message h⟩
  | unknownParameter name =>
    show Bare ("Failed to expand regex: Parameter `" ++ name ++ "` not found.")
    exact bare_append.2 ⟨bare_append.2 ⟨bare_ofList.2 (by decide), h⟩, bare_ofList.2 (by decide)⟩
  | brokenExpansion phrase parameters =>
    show Bare ("Regex creation failed: " ++ wording (.expansion phrase parameters))
    exact bare_append.2 ⟨bare_ofList.2 (by decide), hplain⟩
  | brokenRegex source =>
    show Bare ("" ++ wording (.expression source))
    exact bare_append.2 ⟨by decide, hplain⟩

theorem bare_mention {before behind : String} {name : Option String} (hbefore : Bare before) (hbehind : Bare behind)
    (h : ∀ n ∈ name, Bare n) : Bare ((name.map fun n => before ++ n ++ behind).getD "") := by
  cases name with
  | none => exact (by decide : Bare "")
  | some n => exact bare_append.2 ⟨bare_append.2 ⟨hbefore, h n rfl⟩, hbehind⟩

theorem UnmatchedStep.bare_headline {u : UnmatchedStep} (hstep : Bare u.step) (hscenario : Bare u.scenario)
    (houtline : ∀ outline ∈ u.outline, Bare outline) (hrule : ∀ rule ∈ u.rule, Bare rule)
    (hfeature : Bare u.feature) : Bare u.headline := by
  have hquote : Bare "\"" := by decide
  have hofOutline := bare_mention (bare_ofList.2 (by decide) : Bare " of outline \"") hquote houtline
  have hinRule := bare_mention (bare_ofList.2 (by decide) : Bare " in rule \"") hquote hrule
  have hnone : Bare "No step definition matched `" := bare_ofList.2 (by decide)
  have hinScenario : Bare "` in scenario \"" := bare_ofList.2 (by decide)
  have hofFeature : Bare " of feature \"" := bare_ofList.2 (by decide)
  unfold headline
  simp only [bare_append]
  exact ⟨⟨⟨⟨⟨⟨⟨⟨⟨hnone, hstep⟩, hinScenario⟩, hscenario⟩, hquote⟩, hofOutline⟩, hinRule⟩, hofFeature⟩, hfeature⟩,
    hquote⟩

variable {params : Parameters} {step : Gherkin.Step} {definitions : List StepDefinition} {limit : Nat}
  {ctx : Lookup.Context} {μ : Matchers} {e : StepError}

def StepDefinition.Faults (params : Parameters) (d : StepDefinition) (e : StepError) : Prop :=
  ∃ fault, d.pattern.compile params = .error fault ∧ e = .invalidPattern d.source fault.message

theorem StepDefinition.faults_of_matchesText {d : StepDefinition} {text : String}
    (h : ((d.matchesText params text).outcome μ).1 = .error e) : d.Faults params e := by
  rcases outcome_bind_eq_error h with h | ⟨r, μ', -, h⟩
  · cases hp : d.pattern with
    | regex source r =>
      unfold compiled at h
      rw [hp] at h
      cases h
    | phrase source =>
      rw [compiled_phrase_outcome hp] at h
      cases hfound : μ.find? d.id source with
      | some r =>
        rw [hfound] at h
        cases h
      | none =>
        cases hcompile : Phrase.compile source params with
        | ok r =>
          rw [hfound, hcompile] at h
          cases h
        | error fault =>
          rw [hfound, hcompile] at h
          cases h
          exact ⟨fault, by rw [hp]; exact hcompile, by rw [StepDefinition.source, hp]; rfl⟩
  · cases h

/-- No text that the error tells of has the escape character in it: no heading, source or path in its report, or
neither the source of its pattern nor what is said of a refused expression. -/
def StepError.Plain (e : StepError) (wording : Wording) : Prop :=
  match e with
  | .noMatch u => u.report.Plain
  | .invalidPattern source reason => Bare source ∧ reason.Plain wording

namespace Lookup

theorem faults_of_find? (h : ((find? params step definitions).outcome μ).1 = .error e) :
    ∃ d ∈ definitions, d.Faults params e := by
  induction definitions generalizing μ with
  | nil => cases h
  | cons d ds ih =>
    have hlater {μ : Matchers} (h : ((find? params step ds).outcome μ).1 = .error e) :
        ∃ d' ∈ d :: ds, d'.Faults params e :=
      (ih h).imp fun d' hd' => ⟨List.mem_cons_of_mem d hd'.1, hd'.2⟩
    unfold find? at h
    split at h
    · rcases outcome_bind_eq_error h with h | ⟨matched, μ', -, h⟩
      · exact ⟨d, List.mem_cons_self, StepDefinition.faults_of_matchesText h⟩
      · split at h
        · cases h
        · exact hlater h
    · exact hlater h

/-- Whatever was compiled before, a lookup fails with a fault in a pattern or for want of a definition. -/
theorem resolve_error_cases (h : ((resolve params definitions limit ctx step).outcome μ).1 = .error e) :
    (∃ d ∈ definitions, d.Faults params e) ∨ e = .noMatch (unmatched definitions limit ctx step) := by
  rcases outcome_bind_eq_error h with h | ⟨found, μ', -, h⟩
  · exact .inl (faults_of_find? h)
  · cases found with
    | some d => cases h
    | none =>
      cases h
      exact .inr rfl

theorem texts_nest (headings : List String) (inner : Report) :
    (nest headings inner).texts = headings ++ inner.texts := by
  induction headings with
  | nil => rfl
  | cons heading headings ih =>
    simp only [nest, List.foldr_cons] at ih ⊢
    simp [Report.texts, Report.textsOfAll, ih]

theorem isEmpty_nest (headings : List String) (inner : Report) : (nest headings inner).isEmpty = inner.isEmpty := by
  induction headings with
  | nil => rfl
  | cons heading headings ih =>
    simp only [nest, List.foldr_cons] at ih ⊢
    simp [Report.isEmpty, Report.allEmpty, ih]

theorem texts_report (ctx : Context) (step : Gherkin.Step) (suggestions : Likeness.Suggestions) :
    (report ctx step suggestions).texts =
      ctx.headings step ++ suggestions.toList.flatMap Likeness.Suggestion.texts := by
  simp [report, texts_nest, Context.headings, Report.texts, Report.textsOfAll]

theorem bare_headline (h : (unmatched definitions limit ctx step).report.Plain) :
    Bare (unmatched definitions limit ctx step).headline := by
  have hheading {heading : String} (hmem : heading ∈ ctx.headings step) : Bare heading := by
    refine h heading ?_
    rw [unmatched, texts_report]
    exact List.mem_append_left _ hmem
  have hname {title name : String} (hmem : title ++ name ∈ ctx.headings step) : Bare name :=
    (bare_append.1 (hheading hmem)).2
  refine UnmatchedStep.bare_headline ?_ ?_ (fun outline houtline => ?_) (fun rule hrule => ?_) ?_
  · exact @hname "Step: " step.describe (by simp [Context.headings])
  · exact @hname "Scenario: " ctx.scenario (by simp [Context.headings])
  · have houtline : ctx.outline = some outline := houtline
    exact @hname "Scenario Outline: " outline (by simp [Context.headings, houtline])
  · have hrule : ctx.rule = some rule := hrule
    exact @hname "Rule: " rule (by simp [Context.headings, hrule])
  · exact @hname "Feature: " ctx.feature List.mem_cons_self

/-- The report of a failed lookup is never left out of the message, since it has suggestions. -/
theorem render_never (h : ((resolve params definitions limit ctx step).outcome μ).1 = .error e)
    (wording : Wording) : e.render .never wording = e.message wording := by
  rcases resolve_error_cases h with ⟨d, -, fault, -, rfl⟩ | rfl
  · rfl
  · have hempty : (unmatched definitions limit ctx step).report.isEmpty = false := by
      rw [unmatched, report, isEmpty_nest]
      rfl
    unfold StepError.message StepError.render
    simp only [hempty, Report.display, String.append_assoc, Bool.false_eq_true, if_false]

theorem strip_render_always (h : ((resolve params definitions limit ctx step).outcome μ).1 = .error e)
    {wording : Wording} (hplain : e.Plain wording) : strip (e.render .always wording) = e.message wording := by
  rw [← render_never h wording]
  rcases resolve_error_cases h with ⟨d, -, fault, hfault, rfl⟩ | rfl
  · obtain ⟨hsource, hrefusal⟩ : Bare d.source ∧ fault.message.Plain wording := hplain
    have hquoted : escape ∉ fault.quoted := fun hmem =>
      hsource (Pattern.quoted_subset_of_compile hfault hmem)
    have hreason : Bare (fault.message.text wording) := PatternFault.bare_message hquoted hrefusal
    have hbefore : Bare "Invalid step pattern `" := bare_ofList.2 (by decide)
    have hbetween : Bare "`: " := by decide
    refine strip_of_bare (?_ : Bare ("Invalid step pattern `" ++ d.source ++ "`: " ++ fault.message.text wording))
    simp only [bare_append]
    exact ⟨⟨⟨hbefore, hsource⟩, hbetween⟩, hreason⟩
  · have hheadline := bare_append.2 ⟨bare_headline hplain, (by decide : Bare "\n")⟩
    rw [StepError.render, StepError.render, strip_append_of_bare hheadline, Report.strip_render hplain]

end Lookup

/-- Paint changes no text. It comes off every report, and off every error of a lookup, whatever the definitions
are, whatever was compiled before and however refused expressions are worded; what is left of an error is its
message. -/
theorem Paint.text_unchanged :
    (∀ r : Report, r.render .never = r.display ∧ (r.Plain → strip (r.render .always) = r.display)) ∧
      ∀ params definitions limit ctx step μ e,
        ((Lookup.resolve params definitions limit ctx step).outcome μ).1 = .error e →
          ∀ wording, e.render .never wording = e.message wording ∧
            (e.Plain wording → strip (e.render .always wording) = e.message wording) :=
  ⟨fun r => ⟨rfl, r.strip_render⟩, fun _ _ _ _ _ _ _ h wording =>
    ⟨Lookup.render_never h wording, Lookup.strip_render_always h⟩⟩

namespace Lookup

def stallEating : StepDefinition :=
  { stallDefinition .action "I eat {} fig(s)" with location := some ⟨"steps/stall.rs", 7, 1⟩ }

def stallUnmatched : UnmatchedStep := unmatched [stallEating] 5 stallContext stallStep

/-- A parameter with a group that has one name wherever the parameter is used. -/
def groupTypes (body : String) : Parameters := ⟨[("p", "(?P<n>" ++ body ++ ")*")]⟩

def groupTwice : StepDefinition := stallDefinition .action "{p} {p}"

def groupRefusal (body : String) : Regex.Refusal :=
  .expansion "{p} {p}" ["(?P<n>" ++ body ++ ")*", "(?P<n>" ++ body ++ ")*"]

def groupError (body : String) : StepError :=
  .invalidPattern "{p} {p}" (.refused "Regex creation failed: " (groupRefusal body))

/-- What is said where two groups have one name: the expression, the two places, and what is wrong there. -/
def groupWording (body : String) : Wording := fun _ =>
  "regex parse error:\n    ^(?:(?P<n>(?:" ++ body ++ "))*) (?:(?P<n>(?:" ++ body ++ "))*)$\n            ^" ++
    String.ofList (List.replicate (16 + body.length) ' ') ++ "^\nerror: duplicate capture group name"

theorem resolve_groupTwice {body : String}
    (h : groupTwice.pattern.compile (groupTypes body) = .error (.brokenExpansion "{p} {p}"
      ["(?P<n>" ++ body ++ ")*", "(?P<n>" ++ body ++ ")*"])) :
    ((resolve (groupTypes body) [groupTwice] 5 stallContext stallStep).outcome {}).1 =
      .error (groupError body) :=
  (resolve_eq_invalidPattern_iff (Matchers.sound_empty _) _ _).2
    ⟨groupTwice, _, .inr (.inr rfl), h, rfl, rfl, [], [], rfl, fun _ hmem => nomatch hmem⟩

theorem stall_text_unchanged :
    stallUnmatched.report.Plain ∧
      ((resolve {} [stallEating] 5 stallContext stallStep).outcome {}).1 = .error (.noMatch stallUnmatched) ∧
      strip (stallUnmatched.report.render .always) = stallUnmatched.report.display ∧
      strip ((StepError.noMatch stallUnmatched).render .always) = (StepError.noMatch stallUnmatched).message ∧
      (StepError.noMatch stallUnmatched).render .always ≠ (StepError.noMatch stallUnmatched).message ∧
      (groupError "figs").Plain (groupWording "figs") ∧
      ((resolve (groupTypes "figs") [groupTwice] 5 stallContext stallStep).outcome {}).1 =
        .error (groupError "figs") ∧
      strip ((groupError "figs").render .always (groupWording "figs")) =
        (groupError "figs").message (groupWording "figs") := by
  have hplain : stallUnmatched.report.Plain := by decide +kernel
  have heating : stallEating.verdict {} stallStep.text = .ok false := eq_ok_of_toOption (by decide +kernel)
  have hrejects := StepDefinition.verdict_eq_false_iff.1 heating
  have hresult := (resolve_eq_noMatch_iff (Matchers.sound_empty {}) stallUnmatched).2
    ⟨List.forall_mem_singleton.2 fun _ => hrejects, tells_iff.2 rfl⟩
  have hpattern : Bare "{p} {p}" := by decide
  have hwords : Bare (groupWording "figs" (groupRefusal "figs")) := by decide +kernel
  have hgroup : (groupError "figs").Plain (groupWording "figs") := ⟨hpattern, hwords⟩
  have hrefused := @resolve_groupTwice "figs" (by decide +kernel)
  refine ⟨hplain, hresult, (Paint.text_unchanged.1 stallUnmatched.report).2 hplain, ?_, by decide +kernel,
    hgroup, hrefused, ?_⟩
  · exact (Paint.text_unchanged.2 {} [stallEating] 5 stallContext stallStep {} _ hresult .elided).2 hplain
  · exact (Paint.text_unchanged.2 _ [groupTwice] 5 stallContext stallStep {} _ hrefused _).2 hgroup

/-- The escape character and a class that is written after it begin bold text wherever the expression of the
parameter is quoted, and nothing else that the error tells of has that character. -/
theorem refusal_quotes_paint :
    Parameters.define {} "p" "(?P<n>\x1b[1m])*" = .ok (groupTypes "\x1b[1m]") ∧
      ((resolve (groupTypes "\x1b[1m]") [groupTwice] 5 stallContext stallStep).outcome {}).1 =
        .error (groupError "\x1b[1m]") ∧
      (∀ text ∈ groupTwice.source :: stallContext.headings stallStep, Bare text) ∧
      groupTwice.location = none ∧
      strip ((groupError "\x1b[1m]").render .always (groupWording "\x1b[1m]")) ≠
        (groupError "\x1b[1m]").message (groupWording "\x1b[1m]") :=
  ⟨by decide +kernel, resolve_groupTwice (by decide +kernel), by decide +kernel, rfl, by decide +kernel⟩

end Lookup

end FeaturePlan
