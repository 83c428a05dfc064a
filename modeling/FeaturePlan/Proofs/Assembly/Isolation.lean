import FeaturePlan.Proofs.Assembly.History
import FeaturePlan.Proofs.Scope.Extension

/-!
Plans are isolated from features that are registered later. The assembly is handed the parameter types and
the candidates of one feature, the first one of the document's name; none of this changes if further features
follow, whatever they are called and whatever is in them.
-/
namespace FeaturePlan
namespace Plan

theorem ofFeature_append (d : Gherkin.Document) (f : Scope) (cs : List Candidate) (parameters : Parameters)
    (limit : Nat) {later : List Candidate} (h : ∀ c ∈ later, c.feature.id ≠ f.id) :
    Materials.ofFeature d f (cs ++ later) parameters limit = .ofFeature d f cs parameters limit := by
  have hlater : later.filter (·.feature.id = f.id) = [] :=
    List.filter_eq_nil_iff.2 fun c hc => by simpa using h c hc
  rw [Materials.ofFeature, Materials.ofFeature, List.filter_append, hlater, List.append_nil]

/-- Once there is a feature of the document's name, its plan does not tell of further ones. -/
theorem ofDocument_of_extension {b b' : Blueprint} (h : b.Extension b') (limit : Nat) {d : Gherkin.Document}
    (hd : ∃ f ∈ b.children b.root, f.kind = .feature ∧ Text.canonical f.name = Text.canonical d.name) :
    ofDocument limit d b' = ofDocument limit d b := by
  obtain ⟨hparameters, ⟨features, hchildren⟩, later, hcandidates, hlater⟩ := h
  obtain ⟨f, hfind⟩ : ∃ f, (b.children b.root).find? (fun s =>
      s.kind = .feature && Text.canonical s.name = Text.canonical d.name) = some f := by
    rw [← Option.isSome_iff_exists, List.find?_isSome]
    simpa using hd
  -- The search comes to what was registered first before it comes to the further features.
  have hfind' : (b'.children b'.root).find? (fun s =>
      s.kind = .feature && Text.canonical s.name = Text.canonical d.name) = some f := by
    rw [hchildren, List.find?_append, hfind, Option.some_or]
  unfold ofDocument
  rw [hcandidates, hparameters]
  cases b.candidates with
  | error e => rfl
  | ok cs =>
    simp only [Except.map, pure_bind, hfind, hfind']
    rw [ofFeature_append d f cs _ _ fun c hc => hlater c hc f (List.mem_of_find?_eq_some hfind)]

/-- Whatever a program registers with identifiers that are never repeated, and whatever fails in it, features
that are added afterwards change nothing for a document that had a feature before: it has the same plan, or
there is none for the same reason. -/
theorem ofDocument_isolated {source : IdSource} (h : source.NeverRepeats) (program : List Command)
    {later : List Command} (hlater : AddsFeatures later) :
    ∃ b b', (Command.runAll program (.start source)).2.finish = .ok b ∧
      (Command.runAll later (Command.runAll program (.start source)).2).2.finish = .ok b' ∧
      ∀ limit d,
        (∃ f ∈ b.children b.root, f.kind = .feature ∧ Text.canonical f.name = Text.canonical d.name) →
        ∀ μ μ', μ.Sound b.parameters → μ'.Sound b'.parameters →
          ((ofDocument limit d b').outcome μ').1 = ((ofDocument limit d b).outcome μ).1 := by
  obtain ⟨b, b', hb, hb', hextension⟩ := Command.extension_of_addsFeatures h program hlater
  refine ⟨b, b', hb, hb', fun limit d hd μ μ' hμ hμ' => ?_⟩
  have hsame := ofDocument_of_extension hextension limit hd
  have hsteady := ofDocument_steady limit d b
  rw [hextension.parameters] at hμ'
  rw [hsame, (hsteady μ hμ).1, (hsteady μ' hμ').1]

section Annex

def kiosk : List Command :=
  [.scope 0 false (.usual .feature "Kiosk")
    [.scope 1 false (.usual .scenario "Visit")
      [.entry 2 false (.step (.typed .action) (.phrase "I pay") {} none)] none] none]

/-- A feature of the same name with a scenario of the same name in it, which has one definition more; and a
rule that fails over what may not stand in it. -/
def annex : List Command :=
  [.entry 3 false (.hook .setup none {}),
    .scope 4 true (.usual .feature " Kiosk ")
      [.scope 5 false (.usual .scenario "Visit")
          [.entry 6 false (.step (.typed .action) (.phrase "I pay") {} none),
            .entry 7 false (.step (.typed .action) (.phrase "I leave") {} none)] none,
        .scope 8 false (.usual .rule "Guests") [.scope 9 false (.usual .rule "Members") [] none] none] none]

def act (text : String) : Gherkin.Step where
  keyword := "When"
  type := .action
  conjunction := false
  text
  line := 3

def visit (actions : List String) : Gherkin.Document where
  keyword := "Feature"
  name := "Kiosk"
  description := none
  tags := []
  background := none
  elements := [.node (.scenario
    { keyword := "Scenario", name := "Visit", tags := [], steps := actions.map act, line := 2 })]
  path := none

def leaveUnmatched : String :=
  "No step definition matched `When I leave` in scenario \"Visit\" of feature \"Kiosk\"\n" ++
    "Feature: Kiosk\n  Scenario: Visit\n    Step: When I leave\n" ++
    "      Did you mean:\n        - When I pay"

theorem annex_isolated : AddsFeatures annex ∧
    ∃ b b', (Command.runAll kiosk (.start .sequential)).2.finish = .ok b ∧
      (Command.runAll annex (Command.runAll kiosk (.start .sequential)).2).2.finish = .ok b' ∧
      (b'.children b'.root).map (·.name) = ["Kiosk", " Kiosk "] ∧
      ∃ e, ((ofDocument 5 (visit ["I pay", "I leave"]) b).outcome {}).1 = .error e ∧
        ((ofDocument 5 (visit ["I pay", "I leave"]) b').outcome {}).1 = .error e ∧
        e.causeMessage = leaveUnmatched := by
  have hannex : AddsFeatures annex := ⟨by decide, by decide⟩
  obtain ⟨b, b', hb, hb', hisolated⟩ := ofDocument_isolated IdSource.sequential_neverRepeats kiosk hannex
  obtain rfl := Except.ok.inj (hb.symm.trans (Blueprint.finish_ofProgram kiosk))
  have hnames : (Command.runAll annex (Command.runAll kiosk (.start .sequential)).2).2.finish.toOption.map
      (fun b => (b.children b.root).map (·.name)) = some ["Kiosk", " Kiosk "] := by decide +kernel
  rw [hb'] at hnames
  have hmessage : (match ((ofDocument 5 (visit ["I pay", "I leave"]) (.ofProgram kiosk)).outcome {}).1 with
      | .ok _ => none
      | .error e => some e.causeMessage) = some leaveUnmatched := by decide +kernel
  have hsame := hisolated 5 (visit ["I pay", "I leave"]) (by decide +kernel) {} {} (Matchers.sound_empty _)
    (Matchers.sound_empty _)
  refine ⟨hannex, _, b', hb, hb', Option.some.inj hnames, ?_⟩
  cases hresult : ((ofDocument 5 (visit ["I pay", "I leave"]) (.ofProgram kiosk)).outcome {}).1 with
  | ok plan =>
    rw [hresult] at hmessage
    cases hmessage
  | error e =>
    rw [hresult] at hsame hmessage
    exact ⟨e, rfl, hsame, Option.some.inj hmessage⟩

end Annex

end Plan
end FeaturePlan
