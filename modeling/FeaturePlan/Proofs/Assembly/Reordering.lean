import FeaturePlan.Proofs.Assembly.Agreement
import FeaturePlan.Proofs.Assembly.Pairing
import FeaturePlan.Proofs.Scope.Listing

/-!
Plans from candidates in another order. What waits under a key, and which rule scopes wait under a name, is
told by the order in which candidates of that key and rules of that name come; so candidates that keep this
order make one plan or one error, and only the scopes that no node asks for may be told in another order.
-/
namespace FeaturePlan

/-- Elements of one key come in two lists in one order, by where each of them comes first. -/
def SameOrder {α κ : Type} [DecidableEq α] (key : α → κ) (xs ys : List α) : Prop :=
  ∀ x ∈ xs, ∀ y ∈ xs, key x = key y → (xs.idxOf x < xs.idxOf y ↔ ys.idxOf x < ys.idxOf y)

instance {α κ : Type} [DecidableEq α] [DecidableEq κ] (key : α → κ) (xs ys : List α) :
    Decidable (SameOrder key xs ys) :=
  inferInstanceAs (Decidable (∀ x ∈ xs, ∀ y ∈ xs, _))

/-- If each of two lists of the same elements is sorted by a measure, and the measures agree on the elements
of one key, these are one list. -/
theorem filter_eq_of_sorted {α κ : Type} [DecidableEq κ] {key : α → κ} {xs ys : List α} {f g : α → Nat}
    (hperm : xs.Perm ys) (hxs : xs.Pairwise (f · < f ·)) (hys : ys.Pairwise (g · < g ·))
    (h : ∀ x ∈ xs, ∀ y ∈ xs, key x = key y → (f x < f y ↔ g x < g y)) (k : κ) :
    xs.filter (key · = k) = ys.filter (key · = k) := by
  have hys' : (ys.filter (key · = k)).Pairwise (f · < f ·) := by
    refine (hys.filter _).imp_of_mem fun {x y} hx hy hxy => ?_
    obtain ⟨hx, hkx⟩ := List.mem_filter.1 hx
    obtain ⟨hy, hky⟩ := List.mem_filter.1 hy
    have hkey : key x = key y := (of_decide_eq_true hkx).trans (of_decide_eq_true hky).symm
    exact (h x (hperm.mem_iff.2 hx) y (hperm.mem_iff.2 hy) hkey).2 hxy
  refine List.Perm.eq_of_pairwise (fun x y _ _ hxy hyx => ?_) (hxs.filter _) hys' (hperm.filter _)
  exact absurd hxy (Nat.lt_asymm hyx)

theorem perm_eraseDups {α : Type} [DecidableEq α] {xs ys : List α} (h : xs.Perm ys) :
    xs.eraseDups.Perm ys.eraseDups := by
  refine (List.perm_ext_iff_of_nodup (nodup_eraseDups xs) (nodup_eraseDups ys)).2 fun x => ?_
  rw [List.mem_eraseDups, List.mem_eraseDups, h.mem_iff]

namespace Plan

def mentions (feature : Scope) (cs : List Candidate) : List Scope :=
  (cs.filter (·.feature.id = feature.id)).filterMap Candidate.rule

/-- Two results are the same, but for the order in which scopes without a counterpart are told. -/
inductive SameResult : Except PlanError TestPlan → Except PlanError TestPlan → Prop
  | same (result : Except PlanError TestPlan) : SameResult result result
  | unmatched {scopes scopes' : List String} (h : scopes.Perm scopes') :
      SameResult (.error (.pairing (.unmatched scopes))) (.error (.pairing (.unmatched scopes')))

/-- Under every key the same waits in the same order, and all that has come of the walk is the same; but the
keys may have come up in another order. -/
structure Assembly.Twin (s s' : Assembly) : Prop where
  candidates : ∀ key, s.candidates.waiting key = s'.candidates.waiting key
  lanes : s.candidates.lanes.keys.Perm s'.candidates.lanes.keys
  nodup : s.candidates.lanes.keys.Nodup
  rules : ∀ name, s.rules.waiting name = s'.rules.waiting name
  executions : s.executions = s'.executions
  byId : s.byId = s'.byId
  byName : s.byName = s'.byName

theorem bisimulation_twin : Bisimulation Assembly.Twin where
  candidates s s' key h := by
    refine ⟨by rw [Queues.take_fst, Queues.take_fst, h.candidates], ?_⟩
    refine ⟨fun key' => ?_, ?_, ?_, h.rules, h.executions, h.byId, h.byName⟩
    · simp only [Queues.waiting_take, h.candidates]
    · simpa only [Queues.keys_take] using h.lanes
    · simpa only [Queues.keys_take] using h.nodup
  rules s s' name h := by
    refine ⟨by rw [Queues.take_fst, Queues.take_fst, h.rules], ?_⟩
    refine ⟨h.candidates, h.lanes, h.nodup, fun name' => ?_, h.executions, h.byId, h.byName⟩
    simp only [Queues.waiting_take, h.rules]
  byId _ _ h := h.byId
  byName _ _ h := h.byName
  add s s' e h := by
    refine ⟨h.candidates, h.lanes, h.nodup, h.rules, ?_, ?_, ?_⟩
    · simp only [Assembly.add, h.executions]
    · simp only [Assembly.add, h.byId]
    · simp only [Assembly.add, h.byName]

theorem Assembly.Twin.leftovers {s s' : Assembly} (h : s.Twin s') :
    s.candidates.leftovers.Perm s'.candidates.leftovers := by
  have hwaiting : s.candidates.waiting = s'.candidates.waiting := funext h.candidates
  rw [Queues.leftovers_eq_flatMap h.nodup, Queues.leftovers_eq_flatMap (h.lanes.nodup_iff.1 h.nodup), hwaiting]
  exact h.lanes.flatMap_right _

theorem sameResult_of_twin {m : Materials} {cs : List Candidate} {μ μ' : Matchers}
    (hμ : μ.Sound m.parameters) (hμ' : μ'.Sound m.parameters)
    (h : (Assembly.start m.candidates).Twin (.start cs)) :
    SameResult ((assemble m).outcome μ).1 ((assemble { m with candidates := cs }).outcome μ').1 := by
  obtain ⟨hend, -, -⟩ := bisimulation_twin.assembleElements m _ _ μ μ' h hμ hμ'
  -- The walk does not look at the candidates of its materials, only at those that wait.
  have hwalk : { m with candidates := cs }.document.elements.mapM
      (assembleElement { m with candidates := cs }) = m.document.elements.mapM (assembleElement m) := rfl
  unfold assemble
  rw [Matching.outcome_bind, Matching.outcome_bind, hwalk]
  rcases h₁ : Matching.outcome ((m.document.elements.mapM (assembleElement m)).run (.start m.candidates)) μ
    with ⟨end₁, μ₁⟩
  rcases h₂ : Matching.outcome ((m.document.elements.mapM (assembleElement m)).run (.start cs)) μ'
    with ⟨end₂, μ₂⟩
  rw [h₁, h₂] at hend
  cases hend with
  | error e => exact .same _
  | @value elements s s' hs =>
    have hleft := hs.leftovers
    cases hl : s.candidates.leftovers with
    | nil =>
      rw [hl] at hleft
      simp only [hl, hleft.nil_eq.symm, hs.executions, hs.byId, hs.byName]
      exact .same _
    | cons c rest =>
      cases hl' : s'.candidates.leftovers with
      | nil =>
        rw [hl, hl'] at hleft
        cases hleft.eq_nil
      | cons c' rest' =>
        rw [hl, hl'] at hleft
        simp only [hl, hl', List.isEmpty_cons, Bool.not_false, if_true]
        exact .unmatched (hleft.map _)

/-- Candidates that keep the order under each key, and that of the rules of each name, start from twins. -/
theorem twin_start {cs cs' : List Candidate} (hcs : Coherent cs) (hperm : cs.Perm cs')
    (hkeys : ∀ key, cs.filter (PairKey.ofCandidate · = key) = cs'.filter (PairKey.ofCandidate · = key))
    (hrules : SameOrder (Text.canonical ·.name) (cs.filterMap Candidate.rule) (cs'.filterMap Candidate.rule)) :
    (Assembly.start cs).Twin (.start cs') := by
  have hcs' : Coherent cs' :=
    fun c hc c' hc' => hcs c (hperm.mem_iff.2 hc) c' (hperm.mem_iff.2 hc')
  have hdistinct {cs : List Candidate} (h : Coherent cs) :
      distinctRules [] cs = (cs.filterMap Candidate.rule).eraseDups := by
    rw [distinctRules_eq_eraseDups h, List.filter_eq_self.2 fun r _ => by simp]
  constructor
  case candidates =>
    intro key
    rw [Assembly.start, Assembly.start, Queues.waiting_ofList, Queues.waiting_ofList, hkeys]
  case lanes =>
    rw [Assembly.start, Assembly.start, Queues.keys_ofList, Queues.keys_ofList]
    exact perm_eraseDups (hperm.map _)
  case nodup =>
    rw [Assembly.start, Queues.keys_ofList]
    exact nodup_eraseDups _
  case rules =>
    intro name
    rw [Assembly.start, Assembly.start, Queues.waiting_ofList, Queues.waiting_ofList, hdistinct hcs,
      hdistinct hcs']
    -- First mentions put the rules of a name into one order in both, and either list is sorted by that.
    refine filter_eq_of_sorted (perm_eraseDups (hperm.filterMap _)) (pairwise_idxOf_eraseDups _)
      (pairwise_idxOf_eraseDups _) (fun r hr r' hr' => ?_) name
    exact hrules r (List.mem_eraseDups.1 hr) r' (List.mem_eraseDups.1 hr')
  case executions => rfl
  case byId => rfl
  case byName => rfl

theorem coherent_candidates {b : Blueprint} (h : b.Rooted) {cs : List Candidate}
    (hcs : b.candidates = .ok cs) : Coherent cs := by
  intro c hc c' hc' r r' hr hr' hid
  exact h.scopes.eq_of_id_eq (h.rule_of_mem_candidates hcs hc hr) (h.rule_of_mem_candidates hcs hc' hr') hid

/-- If candidates come in another order, but not those of one key nor the rules of one name, the plan or the
error is the same. -/
theorem assemble_reordered {document : Gherkin.Document} {feature : Scope} {cs cs' : List Candidate}
    {parameters : Parameters} {limit : Nat} {μ μ' : Matchers} (hids : (cs.map Candidate.id).Nodup)
    (hcs : Coherent cs) (hperm : cs.Perm cs') (hkeys : SameOrder PairKey.ofCandidate cs cs')
    (hrules : SameOrder (Text.canonical ·.name) (mentions feature cs) (mentions feature cs'))
    (hμ : μ.Sound parameters) (hμ' : μ'.Sound parameters) :
    SameResult ((assemble (.ofFeature document feature cs parameters limit)).outcome μ).1
      ((assemble (.ofFeature document feature cs' parameters limit)).outcome μ').1 := by
  have hnodup : cs.Nodup := hids.of_map _
  have hnodup' : cs'.Nodup := hperm.nodup_iff.1 hnodup
  have hinside : (cs.filter (·.feature.id = feature.id)).Perm (cs'.filter (·.feature.id = feature.id)) :=
    hperm.filter _
  have hcoherent : Coherent (cs.filter (·.feature.id = feature.id)) :=
    fun c hc c' hc' => hcs c (List.mem_of_mem_filter hc) c' (List.mem_of_mem_filter hc')
  refine sameResult_of_twin (m := .ofFeature document feature cs parameters limit) hμ hμ'
    (twin_start hcoherent hinside (fun key => ?_) hrules)
  refine filter_eq_of_sorted hinside ((pairwise_idxOf_lt hnodup).filter _)
    ((pairwise_idxOf_lt hnodup').filter _) (fun c hc c' hc' => ?_) key
  exact hkeys c (List.mem_of_mem_filter hc) c' (List.mem_of_mem_filter hc')

section Shops

def refusal? : Except PlanError TestPlan → Option String
  | .ok _ => none
  | .error e => some e.message

def guestsWith (name : String) : Gherkin.Element :=
  .rule {
    keyword := "Rule", name := "Guests", tags := [], background := none
    nodes := [.scenario { keyword := "Scenario", name, tags := [], steps := [], line := 3 }] }

def guestsDocument (names : List String) : Gherkin.Document where
  keyword := "Feature"
  name := "Shop"
  description := none
  tags := []
  background := none
  elements := names.map guestsWith
  path := none

def candidatesOf (program : List Command) : List Candidate :=
  (Blueprint.ofProgram program).candidates.toOption.getD []

def featureOf (program : List Command) : Scope :=
  let b := Blueprint.ofProgram program
  (b.children b.root).headD b.root

def shopPlan (program : List Command) (names : List String) (cs : List Candidate) :
    Except PlanError TestPlan :=
  ((assemble (.ofFeature (guestsDocument names) (featureOf program) cs {})).outcome {}).1

def drinks : List Command :=
  [.scope 0 false (.usual .feature "Shop")
    [.scope 1 false (.usual .scenario "Milk") [] none, .scope 2 false (.usual .scenario "Tea") [] none,
      .scope 3 false (.usual .rule "Guests") [.scope 4 false (.usual .scenario "Tea") [] none] none] none]

/-- Nobody asks for what stands outside the rule. -/
theorem drinks_reordered :
    SameResult (shopPlan drinks ["Tea"] (candidatesOf drinks))
        (shopPlan drinks ["Tea"] (candidatesOf drinks).reverse) ∧
      refusal? (shopPlan drinks ["Tea"] (candidatesOf drinks)) =
        some (PlanError.message (.pairing (.unmatched
          ["scenario \"Milk\" [scenario-1]", "scenario \"Tea\" [scenario-2]"]))) := by
  have hcs : (Blueprint.ofProgram drinks).candidates = .ok (candidatesOf drinks) := by decide +kernel
  have hrooted := (Blueprint.grounded_of_program (Blueprint.finish_ofProgram drinks)).toRooted
  have hids := hrooted.nodup_candidates hcs
  have hcoherent := coherent_candidates hrooted hcs
  have hperm := (List.reverse_perm (candidatesOf drinks)).symm
  have hkeys : SameOrder PairKey.ofCandidate (candidatesOf drinks) (candidatesOf drinks).reverse := by
    decide +kernel
  have hrules : SameOrder (Text.canonical ·.name) (mentions (featureOf drinks) (candidatesOf drinks))
      (mentions (featureOf drinks) (candidatesOf drinks).reverse) := by decide +kernel
  have hsound := Matchers.sound_empty {}
  exact ⟨assemble_reordered hids hcoherent hperm hkeys hrules hsound hsound, by decide +kernel⟩

def strayed : List Command :=
  [.scope 0 false ⟨.feature, "Shop", {}, none⟩
    [.scope 1 false ⟨.rule, "Guests", {}, none⟩
      [.scope 2 false ⟨.feature, "Bar", {}, none⟩
          [.scope 3 false ⟨.scenario, "Beer", {}, none⟩ [] none] none,
        .scope 4 false ⟨.rule, "Guests", {}, none⟩
          [.scope 5 false ⟨.scenario, "Tea", {}, none⟩ [] none] none,
        .scope 6 false ⟨.scenario, "Milk", {}, none⟩ [] none] none] none]

def strayedSwapped : List Candidate :=
  (candidatesOf strayed).take 1 ++ ((candidatesOf strayed).drop 1).reverse

/-- The beer is in the outer rule, but not in the shop. With it the outer rule is mentioned first however tea
and milk are ordered, and without it only if the milk is. -/
theorem strayed_mention :
    (Blueprint.ofProgram strayed).candidates = .ok (candidatesOf strayed) ∧
      ((candidatesOf strayed).map Candidate.id).Nodup ∧ Coherent (candidatesOf strayed) ∧
      (candidatesOf strayed).Perm strayedSwapped ∧
      SameOrder PairKey.ofCandidate (candidatesOf strayed) strayedSwapped ∧
      SameOrder (Text.canonical ·.name) ((candidatesOf strayed).filterMap Candidate.rule)
        (strayedSwapped.filterMap Candidate.rule) ∧
      refusal? (shopPlan strayed ["Tea", "Milk"] (candidatesOf strayed)) = none ∧
      refusal? (shopPlan strayed ["Tea", "Milk"] strayedSwapped) = some (PlanError.message
        (.pairing (.missingScope .scenario "Tea" (some "Guests") "Shop"))) ∧
      ¬ SameResult (shopPlan strayed ["Tea", "Milk"] (candidatesOf strayed))
        (shopPlan strayed ["Tea", "Milk"] strayedSwapped) := by
  have hcs : (Blueprint.ofProgram strayed).candidates = .ok (candidatesOf strayed) := by decide +kernel
  have hrooted := (Blueprint.grounded_of_program (Blueprint.finish_ofProgram strayed)).toRooted
  have hperm : (candidatesOf strayed).Perm strayedSwapped := by
    have hrest := (List.reverse_perm ((candidatesOf strayed).drop 1)).symm
    have happend := hrest.append_left ((candidatesOf strayed).take 1)
    rwa [List.take_append_drop] at happend
  have hplan : refusal? (shopPlan strayed ["Tea", "Milk"] (candidatesOf strayed)) = none := by decide +kernel
  have hrefused : refusal? (shopPlan strayed ["Tea", "Milk"] strayedSwapped) = some (PlanError.message
      (.pairing (.missingScope .scenario "Tea" (some "Guests") "Shop"))) := by decide +kernel
  refine ⟨hcs, hrooted.nodup_candidates hcs, coherent_candidates hrooted hcs, hperm, by decide +kernel,
    by decide +kernel, hplan, hrefused, fun hsame => ?_⟩
  generalize shopPlan strayed ["Tea", "Milk"] (candidatesOf strayed) = first at hplan hsame
  generalize shopPlan strayed ["Tea", "Milk"] strayedSwapped = second at hrefused hsame
  cases hsame with
  | same =>
    rw [hplan] at hrefused
    cases hrefused
  | unmatched => cases hplan

end Shops

end Plan
end FeaturePlan
