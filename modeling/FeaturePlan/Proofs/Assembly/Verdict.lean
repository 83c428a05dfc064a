import FeaturePlan.Proofs.Assembly.Walk
import FeaturePlan.Proofs.Lists

/-!
What comes of an assembly if no step is at fault and no identity is taken. The first unmet demand decides;
if all demands are met, the candidates that are left over decide. Both are read off the numbers of
demands and of scopes under each key.
-/
namespace FeaturePlan

def PairingError.isMissing : PairingError → Bool
  | .missingScope _ _ _ _ | .missingRule _ _ => true
  | _ => false

namespace Plan

theorem Demand.isMissing_error (m : Materials) (d : Demand) : (d.error m).isMissing = true := by
  cases d <;> rfl

namespace Materials

variable (m : Materials)

def asked (key : PairKey) : Nat := (m.demands.map Demand.key).count (.node key)

/-- The candidates that are left over. The keys stand in the order of their first candidates. -/
def surplus : List Candidate :=
  (m.candidates.map PairKey.ofCandidate).eraseDups.flatMap fun key =>
    (m.candidatesUnder key).drop (m.asked key)

def AllMet : Prop := ∀ before d after, m.demands = before ++ d :: after → ¬ d.Unmet m before

structure FirstUnmet (before : List Demand) (d : Demand) : Prop where
  among : ∃ after, m.demands = before ++ d :: after
  unmet : d.Unmet m before
  met : ∀ earlier x later, before = earlier ++ x :: later → ¬ x.Unmet m earlier

theorem surplus_eq_nil_iff : m.surplus = [] ↔ ∀ key, (m.candidatesUnder key).length ≤ m.asked key := by
  simp only [surplus, List.flatMap_eq_nil_iff, List.drop_eq_nil_iff, List.mem_eraseDups]
  constructor
  · intro h key
    by_cases hk : key ∈ m.candidates.map PairKey.ofCandidate
    · exact h key hk
    · have hnil : m.candidatesUnder key = [] := by
        refine List.filter_eq_nil_iff.2 fun c hc => ?_
        simpa using fun he => hk (List.mem_map.2 ⟨c, hc, he⟩)
      simp [hnil]
  · exact fun h key _ => h key

theorem surplus_nodup (h : (m.candidates.map Candidate.id).Nodup) : m.surplus.Nodup := by
  have hc : m.candidates.Nodup := h.of_map _
  refine List.nodup_flatMap.2 ⟨fun key _ => (hc.filter _).sublist (List.drop_sublist _ _), ?_⟩
  refine (nodup_eraseDups _).imp fun {k k'} hne => ?_
  intro c hk hk'
  have hck := (List.mem_filter.1 (List.mem_of_mem_drop hk)).2
  have hck' := (List.mem_filter.1 (List.mem_of_mem_drop hk')).2
  simp only [decide_eq_true_eq] at hck hck'
  exact hne (hck.symm.trans hck')

end Materials

theorem Stands.leftovers {m : Materials} {tidy : Prop} {ws : List Placement} {s : Assembly}
    (h : Stands m tidy m.demands ws s) : s.candidates.leftovers = m.surplus := by
  have hnodup : s.candidates.lanes.keys.Nodup := by
    rw [h.lanes]
    exact nodup_eraseDups _
  rw [Queues.leftovers_eq_flatMap hnodup, h.lanes, Materials.surplus]
  refine List.flatMap_congr fun key _ => ?_
  rw [← h.waiting key, Materials.asked, h.count_node key, List.drop_left]

/-- What comes of an assembly, as told by the numbers of demands and of scopes. -/
structure Verdict (m : Materials) (result : Except PlanError TestPlan) : Prop where
  missing_iff : (∃ e, result = .error (.pairing e) ∧ e.isMissing = true) ↔ ¬ m.AllMet
  missing : ¬ m.AllMet → ∃ before d, m.FirstUnmet before d ∧ result = .error (.pairing (d.error m))
  unmatched : m.AllMet → (∃ key, m.asked key < (m.candidatesUnder key).length) →
    result = .error (.pairing (.unmatched (m.surplus.map (·.scope.describe))))
  planned : m.AllMet → (∀ key, (m.candidatesUnder key).length ≤ m.asked key) → ∃ plan, result = .ok plan

theorem verdict_of_firstUnmet {m : Materials} {before : List Demand} {d : Demand}
    (h : m.FirstUnmet before d) : Verdict m (.error (.pairing (d.error m))) := by
  have hnot : ¬ m.AllMet := by
    intro hall
    obtain ⟨after, ha⟩ := h.among
    exact hall before d after ha h.unmet
  refine ⟨⟨fun _ => hnot, fun _ => ⟨_, rfl, d.isMissing_error m⟩⟩, fun _ => ⟨before, d, h, rfl⟩, ?_, ?_⟩
  · exact fun hall => absurd hall hnot
  · exact fun hall => absurd hall hnot

/-- Unless a step is at fault or an identity is taken, the numbers of demands and of scopes decide, and
nothing is left over twice. -/
theorem assemble_verdict {m : Materials} {μ : Matchers}
    (hstep : ∀ cause, ((assemble m).outcome μ).1 ≠ .error (.step cause))
    (hidentity : ∀ cause, ((assemble m).outcome μ).1 ≠ .error (.identity cause)) :
    Verdict m ((assemble m).outcome μ).1 ∧
      ((m.candidates.map Candidate.id).Nodup → m.surplus.Nodup) := by
  refine ⟨?_, m.surplus_nodup⟩
  obtain ⟨hends, -⟩ := assemble_ends m (False.elim : Kept m False μ)
  generalize (Matching.outcome (assemble m) μ).1 = result at hends hstep hidentity
  -- A walk that comes through has met all demands, and one that stops does so at the first unmet one.
  cases hends with
  | plan hs hm hempty =>
    rw [hs.leftovers, m.surplus_eq_nil_iff] at hempty
    refine ⟨⟨?_, fun h => absurd hs.met h⟩, fun h => absurd hs.met h, ?_, fun _ _ => ⟨_, rfl⟩⟩
    · rintro ⟨e, he, -⟩
      cases he
    · rintro - ⟨key, hkey⟩
      exact absurd (hempty key) (Nat.not_le_of_gt hkey)
  | unmatched hs hleft =>
    rw [hs.leftovers] at hleft ⊢
    refine ⟨⟨?_, fun h => absurd hs.met h⟩, fun h => absurd hs.met h, fun _ _ => rfl, ?_⟩
    · rintro ⟨e, he, hmissing⟩
      cases he
      cases hmissing
    · exact fun _ h => absurd (m.surplus_eq_nil_iff.2 h) hleft
  | stopped hstop =>
    obtain ⟨before, d, after, ws, s, hdemands, hs, hfault⟩ := hstop
    cases hfault with
    | unmet hunmet => exact verdict_of_firstUnmet ⟨⟨after, hdemands⟩, hunmet, hs.met⟩
    | step _ _ _ cause => exact absurd rfl (hstep cause)
    | identity _ _ _ cause => exact absurd rfl (hidentity cause)

def oneLeftOver : Materials :=
  let feature : Scope := { id := ⟨"feature-1"⟩, kind := .feature, name := "Shop", mode := .standard }
  let rule : Scope := { id := ⟨"rule-1"⟩, kind := .rule, name := "Open", mode := .standard }
  let candidate (id name : String) : Candidate :=
    { scope := { id := ⟨id⟩, kind := .scenario, name, mode := .standard }
      feature, rule := some rule, ancestors := [feature, rule], steps := [] }
  { document := {
      keyword := "Feature", name := "Shop", description := none, tags := [], background := none
      elements := [.rule {
        keyword := "Rule", name := "Open", tags := [], background := none
        nodes := [.scenario { keyword := "Scenario", name := "Tea", tags := [], steps := [], line := 3 }] }]
      path := none }
    feature
    candidates := [candidate "scenario-1" "Milk", candidate "scenario-2" "Tea"]
    parameters := {} }

theorem oneLeftOver_verdict :
    Verdict oneLeftOver ((assemble oneLeftOver).outcome {}).1 ∧ oneLeftOver.surplus.Nodup ∧
      oneLeftOver.surplus.map (·.scope.describe) = ["scenario \"Milk\" [scenario-1]"] := by
  have hpairing : (match ((assemble oneLeftOver).outcome {}).1 with
      | .error (.pairing _) => true
      | _ => false) = true := by decide +kernel
  obtain ⟨hverdict, hnodup⟩ := assemble_verdict (m := oneLeftOver) (μ := {})
    (fun cause h => by rw [h] at hpairing; cases hpairing)
    (fun cause h => by rw [h] at hpairing; cases hpairing)
  exact ⟨hverdict, hnodup (by decide), by decide +kernel⟩

end Plan
end FeaturePlan
