import FeaturePlan.Proofs.Assembly.History
import FeaturePlan.Proofs.Assembly.Pairing

/-!
Plans of a document that goes on. The walk through the elements at the front of a document is the same
whatever follows them. So an error in it stays, and if all of the document has a plan, the elements at the
front have theirs, unless a candidate still waits behind them that later elements take.
-/
namespace FeaturePlan

namespace Plan

def Materials.withElements (m : Materials) (es : List Gherkin.Element) : Materials :=
  { m with document := { m.document with elements := es } }

/-- What an assembly ends with once the walk has come through the document. -/
def Materials.conclude (m : Materials) (elements : List Element) (s : Assembly) : Except PlanError TestPlan :=
  if s.candidates.leftovers = [] then
    .ok {
      feature := ⟨m.document.keyword, m.document.name, m.document.tags, m.feature, elements⟩
      executions := s.executions
      byId := s.byId
      byName := s.byName }
  else .error (.pairing (.unmatched (s.candidates.leftovers.map (·.scope.describe))))

theorem Materials.conclude_eq_ok {m : Materials} {elements : List Element} {s : Assembly} {plan : TestPlan}
    (h : m.conclude elements s = .ok plan) :
    s.candidates.leftovers = [] ∧ plan.feature.elements = elements ∧ plan.executions = s.executions := by
  rw [conclude] at h
  split at h
  · next hleft =>
    cases h
    exact ⟨hleft, rfl, rfl⟩
  · cases h

theorem Materials.conclude_eq_error {m : Materials} {elements : List Element} {s : Assembly} {e : PlanError}
    (h : m.conclude elements s = .error e) : ∃ scopes, e = .pairing (.unmatched scopes) := by
  rw [conclude] at h
  split at h
  · cases h
  · cases h
    exact ⟨_, rfl⟩

section Walk

variable {m : Materials} {tidy : Prop} {μ : Matchers}

theorem assemble_outcome (m : Materials) (μ : Matchers) :
    ((assemble m).outcome μ).1 =
      (Matching.outcome ((m.document.elements.mapM (assembleElement m)).run (.start m.candidates)) μ).1.bind
        fun end_ => m.conclude end_.1 end_.2 := by
  unfold assemble
  rw [Matching.outcome_bind]
  rcases Matching.outcome ((m.document.elements.mapM (assembleElement m)).run (.start m.candidates)) μ
    with ⟨e | ⟨elements, s⟩, μ'⟩
  · rfl
  · dsimp only
    cases hleft : s.candidates.leftovers with
    | nil =>
      simp [Except.bind, Materials.conclude, hleft]
      rfl
    | cons c cs =>
      simp [Except.bind, Materials.conclude, hleft]
      rfl

theorem Mirrors.made {done : List Demand} {ws : List Placement} {e : Gherkin.Element} {made : Element}
    (h : Mirrors m done ws e made) : ws.map (·.made) = made.places.map Prod.snd := by
  cases h with
  | node n c made => rfl
  | rule r scope ws h hnodes => simp [Element.places]
  | bareRule r h hnodes => rfl

/-- From wherever the walk stands it goes on through further elements by one placement for each node that is
made of them. -/
theorem furtherElements_ensures {done : List Demand} {ws : List Placement} {s : Assembly}
    (hs : Stands m tidy done ws s) (hμ : Kept m tidy μ) (es : List Gherkin.Element) :
    Ensures (es.mapM (assembleElement m)) s μ
      (fun els s' μ' => Kept m tidy μ' ∧ ∃ ws', Stands m tidy (done ++ m.demandsAfter done es) (ws ++ ws') s' ∧
        ws'.map (·.made) = (els.flatMap Element.places).map Prod.snd ∧ els.length = es.length)
      (fun _ _ => True) := by
  refine Ensures.mapM (fun before els s' μ' => Kept m tidy μ' ∧
    ∃ ws', Stands m tidy (done ++ m.demandsAfter done before) (ws ++ ws') s' ∧
      ws'.map (·.made) = (els.flatMap Element.places).map Prod.snd ∧ els.length = before.length) ?_ ?_
  · exact ⟨hμ, [], by simpa [Materials.demandsAfter] using hs, rfl, rfl⟩
  · rintro before e after els s' μ' - ⟨hk, ws', hs', hmade, hlength⟩
    refine (assembleElement_ensures hs' hk e).mono ?_ fun _ _ _ => trivial
    rintro made s'' μ'' ⟨hk', ws'', hs'', hm⟩
    refine ⟨hk', ws' ++ ws'', ?_, ?_, by simp [hlength]⟩
    · rw [m.demandsAfter_append]
      simpa [Materials.demandsAfter] using hs''
    · simp [hmade, hm.made]

theorem Stands.leftovers_perm {done done' : List Demand} {ws ws' : List Placement} {s s' : Assembly}
    (hs : Stands m tidy done ws s) (hs' : Stands m tidy done' (ws ++ ws') s')
    (hempty : s'.candidates.leftovers = []) : s.candidates.leftovers.Perm (ws'.map (·.candidate)) := by
  have hnodup : s.candidates.lanes.keys.Nodup := by
    rw [hs.lanes]
    exact nodup_eraseDups _
  have hkey : ∀ key, ∀ c ∈ s.candidates.waiting key, PairKey.ofCandidate c = key := by
    intro key c hc
    have hmem : c ∈ m.candidatesUnder key := by
      rw [← hs.waiting key]
      exact List.mem_append_right _ hc
    exact of_decide_eq_true (List.mem_filter.1 hmem).2
  have hfilter : ∀ key, s.candidates.leftovers.filter (PairKey.ofCandidate · = key) =
      (ws'.map (·.candidate)).filter (PairKey.ofCandidate · = key) := by
    intro key
    have hall := hs'.candidates_filter_eq hempty key
    rw [List.map_append, List.filter_append, ← hs.waiting key] at hall
    rw [Queues.filter_leftovers hnodup hkey, List.append_cancel_left hall]
  exact perm_of_filter_eq hfilter

theorem executions_of_made {ws : List Placement} {els : List Element}
    (h : ws.map (·.made) = (els.flatMap Element.places).map Prod.snd) :
    ws.flatMap (·.made.executions) = els.flatMap Element.executions := by
  have helement (e : Element) : (e.places.map Prod.snd).flatMap Node.executions = e.executions := by
    cases e with
    | node n => simp [Element.places, Element.executions]
    | rule r => simp [Element.places, Element.executions, Function.comp_def]
  calc ws.flatMap (·.made.executions)
      _ = (ws.map (·.made)).flatMap Node.executions := (List.flatMap_map ..).symm
      _ = els.flatMap fun e => (e.places.map Prod.snd).flatMap Node.executions := by
        rw [h, List.map_flatMap, List.flatMap_assoc]
      _ = els.flatMap Element.executions := List.flatMap_congr fun e _ => helement e

end Walk

/-- What comes of the elements at the front of a document whose plan has the first and the later elements. -/
inductive FrontResult (first later : List Element) : Except PlanError TestPlan → Prop
  | plan {part : TestPlan} (hlater : later.flatMap Element.places = []) (helements : part.feature.elements = first)
      (hexecutions : part.executions = first.flatMap Element.executions) : FrontResult first later (.ok part)
  | unmatched {scopes : List Scope} (hlater : later.flatMap Element.places ≠ [])
      (hscopes : scopes.Perm ((later.flatMap Element.places).map (·.2.scope)))
      (hnodup : (scopes.map Scope.id).Nodup) :
      FrontResult first later (.error (.pairing (.unmatched (scopes.map Scope.describe))))

theorem frontResult_conclude {m : Materials} {tidy : Prop} {done done' : List Demand}
    {ws ws' : List Placement} {s s' : Assembly} {first later : List Element}
    (hids : (m.candidates.map Candidate.id).Nodup) (hs : Stands m tidy done ws s)
    (hfirst : ws.map (·.made) = (first.flatMap Element.places).map Prod.snd)
    (hs' : Stands m tidy done' (ws ++ ws') s')
    (hlater : ws'.map (·.made) = (later.flatMap Element.places).map Prod.snd)
    (hempty : s'.candidates.leftovers = []) : FrontResult first later (m.conclude first s) := by
  -- What is left over in front is what the later nodes take.
  have hperm := hs.leftovers_perm hs' hempty
  have hscopes : (later.flatMap Element.places).map (·.2.scope) = (ws'.map (·.candidate)).map Candidate.scope := by
    have hmade := congrArg (List.map Node.scope) hlater
    rw [List.map_map, List.map_map] at hmade
    rw [List.map_map]
    exact hmade.symm.trans (List.map_congr_left fun w hw => (hs'.planned w (List.mem_append_right _ hw)).scope)
  rw [Materials.conclude]
  by_cases hleft : s.candidates.leftovers = []
  · rw [if_pos hleft]
    rw [hleft] at hperm
    rw [List.map_eq_nil_iff.1 hperm.nil_eq.symm, List.map_nil, List.map_nil, List.map_eq_nil_iff] at hscopes
    exact .plan hscopes rfl (hs.executions.trans (executions_of_made hfirst))
  · rw [if_neg hleft]
    have hall : ((ws ++ ws').map (·.candidate)).Perm m.candidates :=
      perm_of_filter_eq (hs'.candidates_filter_eq hempty)
    have hnodup : (((ws ++ ws').map (·.candidate)).map Candidate.id).Nodup := (hall.map _).nodup_iff.2 hids
    rw [List.map_append, List.map_append] at hnodup
    have hdescribe : s.candidates.leftovers.map (·.scope.describe) =
        (s.candidates.leftovers.map Candidate.scope).map Scope.describe := by
      rw [List.map_map]
      rfl
    rw [hdescribe]
    refine .unmatched (fun hnil => hleft ?_) (hscopes ▸ hperm.map _) ?_
    · rw [hnil, List.map_nil, eq_comm, List.map_eq_nil_iff] at hscopes
      exact List.Perm.eq_nil (hscopes ▸ hperm)
    · rw [List.map_map]
      exact (hperm.map Candidate.id).nodup_iff.2 hnodup.of_append_right

theorem assemble_withElements_outcome (m : Materials) (es : List Gherkin.Element) (μ : Matchers) :
    ((assemble (m.withElements es)).outcome μ).1 =
      (Matching.outcome ((es.mapM (assembleElement m)).run (.start m.candidates)) μ).1.bind
        fun end_ => m.conclude end_.1 end_.2 :=
  -- The walk looks at the document only for what stands around its elements.
  assemble_outcome (m.withElements es) μ

/-- If the elements at the front of a document fail, other than over candidates that are left over, the
document fails for the same reason, whatever follows. And if it has a plan, the elements at the front have
their part of it, unless later nodes take candidates: then these are left over, and no others. -/
theorem assemble_front {m : Materials} {xs ys : List Gherkin.Element} {μ μ' : Matchers}
    (hids : (m.candidates.map Candidate.id).Nodup) (hμ : μ.Sound m.parameters) (hμ' : μ'.Sound m.parameters) :
    (∀ e, (∀ scopes, e ≠ .pairing (.unmatched scopes)) →
        ((assemble (m.withElements xs)).outcome μ).1 = .error e →
          ((assemble (m.withElements (xs ++ ys))).outcome μ').1 = .error e) ∧
      ∀ plan, ((assemble (m.withElements (xs ++ ys))).outcome μ').1 = .ok plan →
        ∃ first later, plan.feature.elements = first ++ later ∧ first.length = xs.length ∧
          plan.executions = first.flatMap Element.executions ++ later.flatMap Element.executions ∧
          FrontResult first later ((assemble (m.withElements xs)).outcome μ).1 := by
  have hfront := (assemble_steady (m.withElements xs) μ hμ).1
  have hall := (assemble_steady (m.withElements (xs ++ ys)) μ' hμ').1
  -- Whatever was compiled before, both walks go through the elements at the front in the same way.
  rw [hfront, hall, assemble_withElements_outcome, assemble_withElements_outcome, List.mapM_append,
    StateT.run_bind, Matching.outcome_bind]
  have hfirst := furtherElements_ensures (stands_start m False) (False.elim : Kept m False {}) xs
  unfold Ensures at hfirst
  rcases hx : Matching.outcome ((xs.mapM (assembleElement m)).run (.start m.candidates)) {}
    with ⟨e | ⟨first, s⟩, μ₁⟩
  · refine ⟨fun e' _ he => he, fun plan hplan => ?_⟩
    cases hplan
  · rw [hx] at hfirst
    obtain ⟨-, ws, hs, hmade, hlength⟩ := hfirst
    have hlater := furtherElements_ensures hs (False.elim : Kept m False μ₁) ys
    unfold Ensures at hlater
    refine ⟨fun e hne he => ?_, fun plan hplan => ?_⟩
    · obtain ⟨scopes, hscopes⟩ := Materials.conclude_eq_error he
      exact absurd hscopes (hne scopes)
    · change ((Matching.outcome (((ys.mapM (assembleElement m)) >>= fun later => pure (first ++ later)).run s)
        μ₁).1.bind fun end_ => m.conclude end_.1 end_.2) = .ok plan at hplan
      rw [StateT.run_bind, Matching.outcome_bind] at hplan
      rcases hy : Matching.outcome ((ys.mapM (assembleElement m)).run s) μ₁ with ⟨e | ⟨later, s'⟩, μ₂⟩
      · rw [hy] at hplan
        cases hplan
      · rw [hy] at hplan hlater
        obtain ⟨-, ws', hs', hmade', -⟩ := hlater
        obtain ⟨hempty, helements, hexecutions⟩ := Materials.conclude_eq_ok hplan
        refine ⟨first, later, helements, hlength, ?_, frontResult_conclude hids hs hmade hs' hmade' hempty⟩
        rw [← executions_of_made hmade, ← executions_of_made hmade', ← List.flatMap_append, hexecutions]
        exact hs'.executions

theorem twoRules_front : ∃ plan first later,
    ((assemble (.ofFeature twoRules shopFeature teas {})).outcome {}).1 = .ok plan ∧
      plan.feature.elements = first ++ later ∧ first.length = 1 ∧
      ((assemble ((Materials.ofFeature twoRules shopFeature teas {}).withElements [.rule (openWith 2)])).outcome
        {}).1 = .error (.pairing (.unmatched ["scenario \"Tea\" [scenario-2]"])) ∧
      FrontResult first later (.error (.pairing (.unmatched ["scenario \"Tea\" [scenario-2]"]))) := by
  have hok : ((assemble (.ofFeature twoRules shopFeature teas {})).outcome {}).1.isOk = true := by
    decide +kernel
  obtain ⟨plan, hplan⟩ := exists_ok_of_isOk hok
  have hmessage : (match ((assemble ((Materials.ofFeature twoRules shopFeature teas {}).withElements
      [.rule (openWith 2)])).outcome {}).1 with
      | .error (.pairing (.unmatched scopes)) => some scopes
      | _ => none) = some ["scenario \"Tea\" [scenario-2]"] := by decide +kernel
  have hsound := Matchers.sound_empty {}
  obtain ⟨-, hfront⟩ := @assemble_front (.ofFeature twoRules shopFeature teas {}) [.rule (openWith 2)]
    [.rule (openWith 1)] {} {} (by decide) hsound hsound
  obtain ⟨first, later, helements, hlength, -, hresult⟩ := hfront plan hplan
  refine ⟨plan, first, later, hplan, helements, hlength, ?_⟩
  generalize ((assemble ((Materials.ofFeature twoRules shopFeature teas {}).withElements
    [.rule (openWith 2)])).outcome {}).1 = result at hmessage hresult
  cases hresult with
  | plan => cases hmessage
  | unmatched hlater hscopes hnodup =>
    rw [← Option.some.inj hmessage]
    exact ⟨rfl, .unmatched hlater hscopes hnodup⟩

end Plan
end FeaturePlan
