import FeaturePlan.Proofs.Gherkin.Places
import FeaturePlan.Proofs.Lists

/-!
Documents that differ in the order of the examples of their outlines, and in nothing else.
-/
namespace FeaturePlan
namespace Gherkin

inductive Node.Shuffled : Node → Node → Prop
  | scenario (s : Scenario) : Node.Shuffled (.scenario s) (.scenario s)
  | outline {o : Outline} {examples : List Example} (h : o.examples.Perm examples) :
      Node.Shuffled (.outline o) (.outline { o with examples })

inductive Element.Shuffled : Element → Element → Prop
  | node {n n' : Node} (h : n.Shuffled n') : Element.Shuffled (.node n) (.node n')
  | rule {r : Rule} {nodes : List Node} (h : List.Forall₂ Node.Shuffled r.nodes nodes) :
      Element.Shuffled (.rule r) (.rule { r with nodes })

def Document.Shuffled (d d' : Document) : Prop :=
  ∃ elements, List.Forall₂ Element.Shuffled d.elements elements ∧ d' = { d with elements }

theorem Element.Shuffled.places {e e' : Element} (h : e.Shuffled e') :
    List.Forall₂ (fun place place' => place'.1.bind (·.background) = place.1.bind (·.background) ∧
      place.2.Shuffled place'.2) e.places e'.places := by
  cases h with
  | node h => exact .cons ⟨rfl, h⟩ .nil
  | rule h =>
    rw [Element.places, Element.places, List.forall₂_map_left_iff, List.forall₂_map_right_iff]
    exact h.imp fun _ _ hn => ⟨rfl, hn⟩

theorem Document.Shuffled.places {d d' : Document} (h : d.Shuffled d') :
    List.Forall₂ (fun place place' => place'.1.bind (·.background) = place.1.bind (·.background) ∧
      place.2.Shuffled place'.2) d.places d'.places := by
  obtain ⟨elements, helements, rfl⟩ := h
  exact List.rel_flatMap helements fun _ _ => Element.Shuffled.places

theorem Document.Shuffled.background {d d' : Document} (h : d.Shuffled d') :
    d'.background = d.background := by
  obtain ⟨elements, -, rfl⟩ := h
  rfl

end Gherkin
end FeaturePlan
