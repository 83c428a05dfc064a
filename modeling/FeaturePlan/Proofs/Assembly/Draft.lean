import FeaturePlan.Proofs.Assembly.Run
import FeaturePlan.Proofs.Catalogue
import FeaturePlan.Proofs.Lists
import Mathlib.Data.List.Forall2

/-!
Executions before and after their steps are resolved. A scenario has one draft and an outline one for each
of its examples; settling a draft resolves its steps and claims its identity. The executions that are
settled so far, in their order, are exactly those that the assembly finds by identifier and by name.
-/
namespace FeaturePlan

def Execution.identity (e : Execution) : String × String := (e.id, e.qualifiedName)

namespace Plan

def Distinct (identities : List (String × String)) : Prop :=
  (identities.map Prod.fst).Nodup ∧ (identities.map Prod.snd).Nodup

instance (identities : List (String × String)) : Decidable (Distinct identities) :=
  inferInstanceAs (Decidable (_ ∧ _))

theorem Distinct.of_sublist {xs ys : List (String × String)} (h : Distinct ys) (hs : xs.Sublist ys) :
    Distinct xs :=
  ⟨h.1.sublist (hs.map _), h.2.sublist (hs.map _)⟩

theorem distinct_concat {identities : List (String × String)} {x : String × String} :
    Distinct (identities ++ [x]) ↔
      Distinct identities ∧ x.1 ∉ identities.map Prod.fst ∧ x.2 ∉ identities.map Prod.snd := by
  simp only [Distinct, List.map_append, List.map_cons, List.map_nil, List.nodup_append,
    List.nodup_singleton, List.mem_singleton, true_and, forall_eq]
  constructor
  · rintro ⟨⟨hi, hi'⟩, hn, hn'⟩
    exact ⟨⟨hi, hn⟩, fun h => hi' _ h rfl, fun h => hn' _ h rfl⟩
  · rintro ⟨⟨hi, hn⟩, hi', hn'⟩
    exact ⟨⟨hi, fun _ h he => hi' (he ▸ h)⟩, hn, fun _ h he => hn' (he ▸ h)⟩

/-- An execution that lacks the definitions of its steps, and the names of what encloses them. -/
structure Draft where
  execution : Execution
  context : Lookup.Context

namespace Draft

def complete (d : Draft) (steps : List StepDefinition) : Execution := { d.execution with steps }

def identity (d : Draft) : String × String := d.execution.identity

end Draft

section Drafts

variable (m : Materials) (rule : Option PairedRule)

def scenarioDraft (s : Gherkin.Scenario) (c : Candidate) : Draft where
  execution := {
    id := c.id.text
    keyword := s.keyword
    qualifiedName := qualifiedName m rule s.keyword s.name c.id.text
    tags := mergeTags [m.document.tags, ruleTags rule, s.tags, c.scope.details.tags]
    candidate := c
    origin := .scenario s
    gherkinSteps := withBackgrounds m rule s.steps
    steps := []
    exampleData := none }
  context := { feature := m.document.name, rule := rule.map (·.rule.name), scenario := s.name }

def exampleDraft (o : Gherkin.Outline) (c : Candidate) (g : Gherkin.ExampleGroup) (row : Gherkin.Example)
    (cells : List String) : Draft where
  execution := {
    id := exampleId c.id.text row.index
    keyword := o.keyword
    qualifiedName := qualifiedName m rule o.keyword row.name (exampleId c.id.text row.index)
    tags := mergeTags
      [m.document.tags, ruleTags rule, o.tags, g.tags, row.tags, c.scope.details.tags]
    candidate := c
    origin := .example row
    gherkinSteps := withBackgrounds m rule row.steps
    steps := []
    exampleData := some {
      groupId := g.id
      groupName := g.name
      groupTags := g.tags
      index := row.index
      values := rowValues g.header cells } }
  context :=
    { feature := m.document.name, rule := rule.map (·.rule.name), outline := some o.name
      scenario := row.name }

def drafts (c : Candidate) : Gherkin.Node → List Draft
  | .scenario s => [scenarioDraft m rule s c]
  | .outline o =>
    o.groups.flatMap fun g =>
      (groupExamples o g).map fun (row, cells) => exampleDraft m rule o c g row cells

variable {m rule} {c : Candidate} {n : Gherkin.Node} {d : Draft}

theorem mem_drafts_cases (h : d ∈ drafts m rule c n) :
    (∃ s, n = .scenario s ∧ d = scenarioDraft m rule s c) ∨
      ∃ o g row cells, n = .outline o ∧ g ∈ o.groups ∧ (row, cells) ∈ groupExamples o g ∧
        d = exampleDraft m rule o c g row cells := by
  cases n with
  | scenario s => exact .inl ⟨s, rfl, List.mem_singleton.1 h⟩
  | outline o =>
    obtain ⟨g, hg, hd⟩ := List.mem_flatMap.1 h
    obtain ⟨⟨row, cells⟩, hrow, rfl⟩ := List.mem_map.1 hd
    exact .inr ⟨o, g, row, cells, rfl, hg, hrow, rfl⟩

theorem candidate_of_mem_drafts (h : d ∈ drafts m rule c n) : d.execution.candidate = c := by
  rcases mem_drafts_cases h with ⟨s, -, rfl⟩ | ⟨o, g, row, cells, -, -, -, rfl⟩
  · rfl
  · rfl

end Drafts

def settle (m : Materials) (c : Candidate) (d : Draft) : Assembling Execution := do
  let steps ← resolveSteps m c d.execution.gherkinSteps d.context
  register (d.complete steps)
  return d.complete steps

theorem assembleScenario_eq (m : Materials) (rule : Option PairedRule) (s : Gherkin.Scenario) :
    assembleScenario m rule s =
      takeCandidate m .scenario s.name rule >>= fun c => settle m c (scenarioDraft m rule s c) := rfl

theorem assembleOutline_eq (m : Materials) (rule : Option PairedRule) (o : Gherkin.Outline) :
    assembleOutline m rule o = do
      let c ← takeCandidate m .outline o.name rule
      let examples ← (drafts m rule c (.outline o)).mapM (settle m c)
      return ⟨o.keyword, o.name, o.tags, c.scope, examples⟩ := by
  unfold assembleOutline
  refine bind_congr fun c => ?_
  have hgroup (g : Gherkin.ExampleGroup) :
      ((groupExamples o g).mapM fun (row, cells) => assembleExample m rule o c g row cells) =
        ((groupExamples o g).map fun (row, cells) => exampleDraft m rule o c g row cells).mapM
          (settle m c) := by
    rw [List.mapM_map]
    rfl
  simp only [hgroup, drafts]
  rw [← mapM_mapM_flatten]
  simp

def Assembly.add (s : Assembly) (e : Execution) : Assembly :=
  { s with
    executions := s.executions ++ [e]
    byId := s.byId.add e.id e
    byName := s.byName.add e.qualifiedName e }

/-- Both catalogues hold the executions so far, and no two of these have one identity. -/
structure Assembly.Indexed (s : Assembly) : Prop where
  byId : s.byId.entries = s.executions.map fun e => (e.id, e)
  byName : s.byName.entries = s.executions.map fun e => (e.qualifiedName, e)
  distinct : Distinct (s.executions.map Execution.identity)

namespace Assembly.Indexed

variable {s : Assembly}

theorem byId_keys (h : s.Indexed) : s.byId.keys = (s.executions.map Execution.identity).map Prod.fst := by
  simp [Catalogue.keys, h.byId, Execution.identity]

theorem byName_keys (h : s.Indexed) :
    s.byName.keys = (s.executions.map Execution.identity).map Prod.snd := by
  simp [Catalogue.keys, h.byName, Execution.identity]

theorem add (h : s.Indexed) {e : Execution}
    (hd : Distinct (s.executions.map Execution.identity ++ [e.identity])) : (s.add e).Indexed where
  byId := by simp [Assembly.add, Catalogue.add, h.byId]
  byName := by simp [Assembly.add, Catalogue.add, h.byName]
  distinct := by simpa [Assembly.add] using hd

end Assembly.Indexed

theorem register_outcome (e : Execution) (s : Assembly) (μ : Matchers) :
    Matching.outcome ((register e).run s) μ =
      (if s.byId.contains e.id then .error (.identity (.duplicateId e.id))
        else if s.byName.contains e.qualifiedName then
          .error (.identity (.duplicateName e.qualifiedName))
        else .ok ((), s.add e), μ) := by
  unfold register
  cases hi : s.byId.contains e.id <;> cases hn : s.byName.contains e.qualifiedName <;>
    simp [Matching.outcome, hi, hn] <;> rfl

theorem register_ensures {s : Assembly} (h : s.Indexed) (e : Execution) (μ : Matchers) :
    Ensures (register e) s μ
      (fun _ s' μ' => μ' = μ ∧ s' = s.add e ∧ (s.add e).Indexed)
      (fun err μ' => μ' = μ ∧ (∃ cause, err = .identity cause) ∧
        ¬ Distinct (s.executions.map Execution.identity ++ [e.identity])) := by
  have hid : s.byId.contains e.id = true ↔ e.id ∈ (s.executions.map Execution.identity).map Prod.fst := by
    rw [Catalogue.contains_eq_true_iff, h.byId_keys]
  have hname : s.byName.contains e.qualifiedName = true ↔
      e.qualifiedName ∈ (s.executions.map Execution.identity).map Prod.snd := by
    rw [Catalogue.contains_eq_true_iff, h.byName_keys]
  unfold Ensures
  rw [register_outcome]
  split_ifs with hi hn
  · exact ⟨rfl, ⟨_, rfl⟩, fun hd => (distinct_concat.1 hd).2.1 (hid.1 hi)⟩
  · exact ⟨rfl, ⟨_, rfl⟩, fun hd => (distinct_concat.1 hd).2.2 (hname.1 hn)⟩
  · exact ⟨rfl, rfl, h.add (distinct_concat.2 ⟨h.distinct, mt hid.2 hi, mt hname.2 hn⟩)⟩

theorem resolveAll_steady (m : Materials) (c : Candidate) (steps : List Gherkin.Step)
    (ctx : Lookup.Context) : Matching.Steady m.parameters (resolveAll m c steps ctx) :=
  .mapM (Lookup.resolve_steady m.parameters c.steps m.limit ctx) steps

/-- The steps of a draft have the given definitions if no pattern has been compiled before. -/
def Resolves (m : Materials) (c : Candidate) (d : Draft) (steps : List StepDefinition) : Prop :=
  ((resolveAll m c d.execution.gherkinSteps d.context).outcome {}).1 = .ok steps

theorem exists_mapM_of_steady {ε α β : Type} {params : Parameters} {f : α → Matching ε β} {xs : List α}
    (hsteady : ∀ x, Matching.Steady params (f x))
    (h : ∀ x ∈ xs, ∃ y, (Matching.outcome (f x) {}).1 = .ok y) :
    ∀ μ : Matchers, μ.Sound params → ∃ ys, (Matching.outcome (xs.mapM f) μ).1 = .ok ys := by
  induction xs with
  | nil => exact fun μ _ => ⟨[], rfl⟩
  | cons x xs ih =>
    intro μ hμ
    obtain ⟨y, hy⟩ := h x List.mem_cons_self
    obtain ⟨hx, hsound⟩ := hsteady x μ hμ
    obtain ⟨ys, hys⟩ := ih (fun z hz => h z (List.mem_cons_of_mem _ hz)) _ hsound
    refine ⟨y :: ys, ?_⟩
    rw [List.mapM_cons, Matching.outcome_bind]
    rcases hout : Matching.outcome (f x) μ with ⟨result, μ'⟩
    rw [hout] at hx hys
    obtain rfl : result = .ok y := hx.trans hy
    simp only [Matching.outcome_bind]
    rcases hrest : Matching.outcome (xs.mapM f) μ' with ⟨result', μ''⟩
    rw [hrest] at hys
    obtain rfl : result' = .ok ys := hys
    rfl

def Defined (params : Parameters) (definitions : List StepDefinition) (step : Gherkin.Step) : Prop :=
  ∃ definition, ((Lookup.find? params step definitions).outcome {}).1 = .ok (some definition)

instance (params : Parameters) (definitions : List StepDefinition) (step : Gherkin.Step) :
    Decidable (Defined params definitions step) :=
  match h : ((Lookup.find? params step definitions).outcome {}).1 with
  | .ok (some definition) => isTrue ⟨definition, h⟩
  | .ok none => isFalse fun ⟨_, hd⟩ => nomatch h.symm.trans hd
  | .error _ => isFalse fun ⟨_, hd⟩ => nomatch h.symm.trans hd

theorem exists_resolves {m : Materials} {c : Candidate} {d : Draft}
    (h : ∀ step ∈ d.execution.gherkinSteps, Defined m.parameters c.steps step) :
    ∃ steps, Resolves m c d steps := by
  refine exists_mapM_of_steady (Lookup.resolve_steady m.parameters c.steps m.limit d.context)
    (fun step hstep => ?_) {} (Matchers.sound_empty m.parameters)
  obtain ⟨definition, hfound⟩ := h step hstep
  refine ⟨definition, ?_⟩
  unfold Lookup.resolve
  rw [Matching.outcome_bind]
  rcases hout : (Lookup.find? m.parameters step c.steps).outcome {} with ⟨result, μ⟩
  rw [hout] at hfound
  obtain rfl : result = .ok (some definition) := hfound
  rfl

section Settle

/- What is kept may be unsound; `tidy` stands for whatever makes it sound. -/
variable (m : Materials) (tidy : Prop)

def Kept (μ : Matchers) : Prop := tidy → μ.Sound m.parameters

def Settled (c : Candidate) (d : Draft) (e : Execution) : Prop :=
  ∃ steps, e = d.complete steps ∧ (tidy → Resolves m c d steps)

variable {m tidy}

theorem Settled.identity {c : Candidate} {d : Draft} {e : Execution} (h : Settled m tidy c d e) :
    e.identity = d.identity := by
  obtain ⟨steps, rfl, -⟩ := h
  rfl

theorem map_identity_of_settled {c : Candidate} {ds : List Draft} {es : List Execution}
    (h : List.Forall₂ (Settled m tidy c) ds es) : es.map Execution.identity = ds.map Draft.identity :=
  (map_eq_map_of_forall₂ h fun _ _ hd => hd.identity.symm).symm

theorem resolveSteps_outcome (m : Materials) (c : Candidate) (steps : List Gherkin.Step)
    (ctx : Lookup.Context) (s : Assembly) (μ : Matchers) :
    Matching.outcome ((resolveSteps m c steps ctx).run s) μ =
      match (resolveAll m c steps ctx).outcome μ with
      | (.ok definitions, μ') => (.ok (definitions, s), μ')
      | (.error e, μ') => (.error (.step e), μ') := by
  unfold resolveSteps
  rw [StateT.run_lift, Matching.outcome_bind, Matching.outcome_adapt]
  rcases (resolveAll m c steps ctx).outcome μ with ⟨_ | _, _⟩ <;> rfl

theorem resolveSteps_ensures {s : Assembly} {μ : Matchers} (hμ : Kept m tidy μ) (c : Candidate)
    (d : Draft) :
    Ensures (resolveSteps m c d.execution.gherkinSteps d.context) s μ
      (fun steps s' μ' => s' = s ∧ Kept m tidy μ' ∧ (tidy → Resolves m c d steps))
      (fun err μ' => Kept m tidy μ' ∧ (∃ cause, err = .step cause) ∧
        (tidy → ¬ ∃ steps, Resolves m c d steps)) := by
  have hsteady := fun ht => resolveAll_steady m c d.execution.gherkinSteps d.context μ (hμ ht)
  unfold Ensures
  rw [resolveSteps_outcome]
  rcases ho : (resolveAll m c d.execution.gherkinSteps d.context).outcome μ with ⟨e | steps, μ'⟩
  · rw [ho] at hsteady
    refine ⟨fun ht => (hsteady ht).2, ⟨e, rfl⟩, ?_⟩
    intro ht hpost
    obtain ⟨steps, hsteps⟩ := hpost
    exact nomatch (hsteady ht).1.trans hsteps
  · rw [ho] at hsteady
    exact ⟨rfl, fun ht => (hsteady ht).2, fun ht => (hsteady ht).1.symm⟩

/-- Settling adds one execution and touches nothing else. It fails only over the steps of the draft or
over its identity. -/
theorem settle_ensures {s : Assembly} {μ : Matchers} (hs : s.Indexed) (hμ : Kept m tidy μ) (c : Candidate)
    (d : Draft) :
    Ensures (settle m c d) s μ
      (fun e s' μ' => Settled m tidy c d e ∧ s' = s.add e ∧ s'.Indexed ∧ Kept m tidy μ')
      (fun err μ' => Kept m tidy μ' ∧
        ((∃ cause, err = .step cause) ∧ (tidy → ¬ ∃ steps, Resolves m c d steps) ∨
          (∃ cause, err = .identity cause) ∧
            ¬ Distinct (s.executions.map Execution.identity ++ [d.identity]))) := by
  unfold settle
  refine Ensures.bind ((resolveSteps_ensures hμ c d).mono ?_ ?_)
  · intro steps s' μ' hpost
    obtain ⟨rfl, hμ', hsteps⟩ := hpost
    refine Ensures.bind ((register_ensures hs (d.complete steps) μ').mono ?_ ?_)
    · intro _ s'' μ'' hpost
      obtain ⟨rfl, rfl, hi⟩ := hpost
      exact Ensures.pure ⟨⟨steps, rfl, hsteps⟩, rfl, hi, hμ'⟩
    · intro err μ'' herr
      obtain ⟨rfl, he, hd⟩ := herr
      exact ⟨hμ', .inr ⟨he, hd⟩⟩
  · intro err μ' herr
    obtain ⟨hμ', he, hd⟩ := herr
    exact ⟨hμ', .inl ⟨he, hd⟩⟩

/-- The state has the given executions more, and the queues are as they were. -/
structure Assembly.Extends (s : Assembly) (es : List Execution) (s' : Assembly) : Prop where
  candidates : s'.candidates = s.candidates
  rules : s'.rules = s.rules
  executions : s'.executions = s.executions ++ es

theorem settleAll_ensures {s : Assembly} {μ : Matchers} (hs : s.Indexed) (hμ : Kept m tidy μ)
    (c : Candidate) (ds : List Draft) :
    Ensures (ds.mapM (settle m c)) s μ
      (fun es s' μ' => List.Forall₂ (Settled m tidy c) ds es ∧ s.Extends es s' ∧ s'.Indexed ∧
        Kept m tidy μ')
      (fun err μ' => Kept m tidy μ' ∧
        ((∃ cause, err = .step cause) ∧ (tidy → ∃ d ∈ ds, ¬ ∃ steps, Resolves m c d steps) ∨
          (∃ cause, err = .identity cause) ∧
            ¬ Distinct (s.executions.map Execution.identity ++ ds.map Draft.identity))) := by
  refine Ensures.mapM (fun before es s' μ' => List.Forall₂ (Settled m tidy c) before es ∧
    s.Extends es s' ∧ s'.Indexed ∧ Kept m tidy μ') ?_ ?_
  · exact ⟨.nil, ⟨rfl, rfl, by simp⟩, hs, hμ⟩
  · rintro before d after es s' μ' rfl ⟨hes, hx, hi, hk⟩
    refine (settle_ensures hi hk c d).mono ?_ ?_
    · intro e s'' μ'' hpost
      obtain ⟨he, rfl, hi', hk'⟩ := hpost
      refine ⟨List.rel_append hes (.cons he .nil), ⟨hx.candidates, hx.rules, ?_⟩, hi', hk'⟩
      simp [Assembly.add, hx.executions]
    · rintro err μ'' ⟨hk', hstep | hid⟩
      · exact ⟨hk', .inl ⟨hstep.1, fun ht => ⟨d, by simp, hstep.2 ht⟩⟩⟩
      · refine ⟨hk', .inr ⟨hid.1, fun hd => hid.2 (hd.of_sublist ?_)⟩⟩
        rw [hx.executions, List.map_append, map_identity_of_settled hes]
        simp

end Settle

end Plan
end FeaturePlan
