import FeaturePlan.Likeness.Report
import FeaturePlan.Proofs.Text.Paint

/-!
The texts that a report shows besides fixed ones, and the paint on it. Every line is made of fixed pieces and of
these texts, so if none of them has the escape character in it, what paint adds to a report comes off again.
-/
namespace FeaturePlan

open Paint

theorem StepKeyword.bare_label (k : StepKeyword) : Bare k.label := by
  rcases k with ⟨_ | _ | _⟩ | _ | _ <;> decide

theorem Location.bare_display {l : Location} (h : Bare l.path) : Bare l.display := by
  have hcolon : Bare ":" := by decide
  simp only [Location.display, bare_append]
  exact ⟨⟨⟨⟨h, hcolon⟩, bare_toString l.line⟩, hcolon⟩, bare_toString l.column⟩

def Likeness.Suggestion.texts (s : Suggestion) : List String :=
  s.definition.source :: (s.definition.location.map Location.path).toList

namespace Report

open Likeness

mutual

def texts : Report → List String
  | .node h s cs => h :: ((s.map Suggestions.toList).getD []).flatMap Suggestion.texts ++ textsOfAll cs

def textsOfAll : List Report → List String
  | [] => []
  | r :: rs => r.texts ++ textsOfAll rs

end

def Plain (r : Report) : Prop := ∀ text ∈ r.texts, Bare text

instance (r : Report) : Decidable r.Plain := inferInstanceAs (Decidable (∀ text ∈ r.texts, Bare text))

theorem bare_indent (depth : Nat) : Bare (indent depth) := by
  rw [indent, bare_ofList, List.mem_replicate]
  exact fun h => absurd h.2 (by decide)

theorem bare_of_mem_suggestionLine {depth : Nat} {s : Suggestion} (h : ∀ text ∈ s.texts, Bare text) :
    ∀ p ∈ suggestionLine depth s, Bare p.text := by
  have hsource : Bare s.definition.source := h _ List.mem_cons_self
  have hlabel := s.definition.keyword.bare_label
  have hdash : Bare (indent depth ++ "  - ") := bare_append.2 ⟨bare_indent depth, by decide⟩
  have hblank : Bare " " := by decide
  intro p hp
  rw [suggestionLine, List.mem_append] at hp
  rcases hp with hp | hp
  · simp only [List.mem_cons, List.not_mem_nil, or_false] at hp
    rcases hp with rfl | rfl | rfl | rfl
    exacts [hdash, hlabel, hblank, hsource]
  · split at hp
    · next l hl =>
      have hpath : Bare l.path := h _ (by simp [Suggestion.texts, hl])
      simp only [List.mem_cons, List.not_mem_nil, or_false] at hp
      rcases hp with rfl | rfl
      exacts [hblank, bare_append.2 ⟨by decide, Location.bare_display hpath⟩]
    · cases hp

theorem tierLines_clean (depth : Nat) {title : String} {tier : List Suggestion} (htitle : Bare title)
    (h : ∀ s ∈ tier, ∀ text ∈ s.texts, Bare text) : Clean (tierLines depth title tier) := by
  rw [tierLines]
  split
  · exact clean_nil
  · refine clean_cons.2 ⟨?_, ?_⟩
    · rintro p hp
      obtain rfl := List.mem_singleton.1 hp
      exact bare_append.2 ⟨bare_indent depth, htitle⟩
    · intro line hline
      obtain ⟨s, hs, rfl⟩ := List.mem_map.1 hline
      exact bare_of_mem_suggestionLine (h s hs)

theorem suggestionLines_clean {depth : Nat} {s : Suggestions}
    (h : ∀ s' ∈ s.toList, ∀ text ∈ s'.texts, Bare text) : Clean (suggestionLines depth s) := by
  have hsameTitle : Bare "Did you mean:" := bare_ofList.2 (by decide)
  have hotherTitle : Bare "Or maybe a step of another type:" := bare_ofList.2 (by decide)
  have hsame := tierLines_clean depth hsameTitle fun s' hs' => h s' (List.mem_append_left _ hs')
  have hother := tierLines_clean depth hotherTitle fun s' hs' => h s' (List.mem_append_right _ hs')
  rw [suggestionLines, clean_append, clean_append]
  refine ⟨⟨?_, hsame⟩, hother⟩
  split
  · refine clean_cons.2 ⟨?_, clean_nil⟩
    rintro p hp
    simp only [List.mem_cons, List.not_mem_nil, or_false] at hp
    rcases hp with rfl | rfl
    exacts [bare_indent depth, bare_ofList.2 (by decide)]
  · exact clean_nil

mutual

theorem lines_clean (depth : Nat) : ∀ r : Report, r.Plain → Clean (r.lines depth)
  | .node heading suggestions children, h => by
    obtain ⟨hnode, hchildren⟩ := List.forall_mem_append.1 h
    obtain ⟨hheading, hsuggestions⟩ := List.forall_mem_cons.1 hnode
    rw [lines, clean_cons, clean_append]
    refine ⟨?_, ?_, linesOfAll_clean (depth + 1) children hchildren⟩
    · rintro p hp
      simp only [List.mem_cons, List.not_mem_nil, or_false] at hp
      rcases hp with rfl | rfl
      exacts [bare_indent depth, hheading]
    · cases suggestions with
      | none => exact clean_nil
      | some suggestions => exact suggestionLines_clean (List.forall_mem_flatMap.1 hsuggestions)

theorem linesOfAll_clean (depth : Nat) : ∀ rs : List Report, (∀ text ∈ textsOfAll rs, Bare text) →
    Clean (linesOfAll depth rs)
  | [], _ => clean_nil
  | r :: rs, h => by
    obtain ⟨hr, hrs⟩ := List.forall_mem_append.1 h
    rw [linesOfAll, clean_append]
    exact ⟨lines_clean depth r hr, linesOfAll_clean depth rs hrs⟩

end

/-- Paint on a report comes off. -/
theorem strip_render {r : Report} (h : r.Plain) : strip (r.render .always) = r.render .never :=
  ComesOff.strip_eq (lines_clean 0 r h).comesOff

end Report
end FeaturePlan
