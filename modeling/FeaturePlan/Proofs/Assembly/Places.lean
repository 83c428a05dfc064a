import FeaturePlan.Proofs.Assembly.Pairing

/-!
A plan place by place: what stands for each scenario and outline of the document, and the candidate that it
is paired with.
-/
namespace FeaturePlan
namespace Plan

variable {m : Materials} {tidy : Prop}

theorem Stands.mem_candidates {done : List Demand} {ws : List Placement} {s : Assembly}
    (h : Stands m tidy done ws s) {w : Placement} (hw : w ∈ ws) : w.candidate ∈ m.candidates := by
  have hwaiting := h.waiting (PairKey.ofCandidate w.candidate)
  have hgiven : w.candidate ∈ (ws.map (·.candidate)).filter
      (PairKey.ofCandidate · = PairKey.ofCandidate w.candidate) :=
    List.mem_filter.2 ⟨List.mem_map_of_mem hw, by simp⟩
  refine List.mem_of_mem_filter (p := (PairKey.ofCandidate · = PairKey.ofCandidate w.candidate)) ?_
  rw [← Materials.candidatesUnder, ← hwaiting]
  exact List.mem_append_left _ hgiven

/-- Every place of the document has its node in the plan, made of a candidate of the feature, and the
executions of the plan are those of its nodes. -/
theorem places_of_ok {μ : Matchers} (hμ : Kept m tidy μ) {plan : TestPlan}
    (h : ((assemble m).outcome μ).1 = .ok plan) :
    plan.executions = plan.feature.places.flatMap (·.2.executions) ∧
      List.Forall₂ (fun place made => ∃ rule c, place.1 = rule.map PairedRule.rule ∧ c ∈ m.candidates ∧
        Planned m tidy rule c place.2 made.2) m.document.places plan.feature.places := by
  obtain ⟨hends, -⟩ := assemble_ends m hμ
  rw [h] at hends
  generalize hresult : (Except.ok plan : Except PlanError TestPlan) = result at hends
  cases hends with
  | stopped => cases hresult
  | unmatched => cases hresult
  | @plan ws s els hs hm hempty =>
    cases hresult
    obtain ⟨pairs, hpairs, hmade⟩ := hm.pairs
    have hnodes : pairs.map (·.made.2) = ws.map (·.made) :=
      (map_eq_map_of_forall₂ hpairs fun _ _ hwp => hwp.node.symm).symm
    rw [FeatureNode.places, ← hmade]
    constructor
    · rw [hs.executions, List.flatMap_map]
      calc ws.flatMap (·.made.executions)
          _ = (ws.map (·.made)).flatMap Node.executions := (List.flatMap_map ..).symm
          _ = (pairs.map (·.made.2)).flatMap Node.executions := by rw [hnodes]
          _ = pairs.flatMap (·.made.2.executions) := List.flatMap_map ..
    · rw [Gherkin.Document.places, ← hm.places, List.forall₂_map_left_iff, List.forall₂_map_right_iff]
      have hboth := (List.forall₂_and_left _ _ (p := (· ∈ ws))).2 ⟨fun _ hw => hw, hpairs⟩
      refine hboth.imp fun w p hwp => ⟨w.rule, w.candidate, rfl, hs.mem_candidates hwp.1, ?_⟩
      rw [hwp.2.node]
      exact hs.planned w hwp.1

end Plan
end FeaturePlan
