import FeaturePlan.Plan.Outcome
import FeaturePlan.Proofs.Assembly.Views

/-!
Outcomes and their history. What a run says of an execution is what the marks on that execution made of
it, one after the other, whatever happened to the others in between; and of these marks the result keeps
the outcome of the last one, and when the execution was started since it was last reset.
-/
namespace FeaturePlan

@[simp] def Mark.isFail : Mark → Bool
  | .fail _ => true
  | _ => false

namespace ExecutionResult

variable {marks : List (Instant × Mark)} {r : ExecutionResult}

def ofMarks (marks : List (Instant × Mark)) : ExecutionResult :=
  marks.foldl (fun r mark => r.after mark.1 mark.2) {}

/-- The execution was started, and not reset since. -/
def Started (marks : List (Instant × Mark)) : Prop :=
  ∃ before now behind, marks = before ++ (now, .start) :: behind ∧ ∀ mark ∈ behind, mark.2 ≠ .reset

def endsFailed (marks : List (Instant × Mark)) : Bool := marks.getLast?.any (·.2.isFail)

@[simp] theorem started_concat (marks : List (Instant × Mark)) (now : Instant) (m : Mark) :
    Started (marks ++ [(now, m)]) ↔ m = .start ∨ m ≠ .reset ∧ Started marks := by
  constructor
  · rintro ⟨before, first, behind, hmarks, hbehind⟩
    rcases concat_eq_append_cons_iff.1 hmarks with ⟨-, hlast, -⟩ | ⟨behind, hsplit, rfl⟩
    · cases hlast
      exact .inl rfl
    · refine .inr ⟨hbehind (now, m) (by simp), before, first, behind, hsplit, fun mark hmark => ?_⟩
      exact hbehind mark (List.mem_append_left _ hmark)
  · rintro (rfl | ⟨hm, before, first, behind, rfl, hbehind⟩)
    · exact ⟨marks, now, [], rfl, by simp⟩
    · refine ⟨before, first, behind ++ [(now, m)], by simp, fun mark hmark => ?_⟩
      rcases List.mem_append.1 hmark with hmark | hmark
      · exact hbehind mark hmark
      · cases List.mem_singleton.1 hmark
        exact hm

@[simp] theorem endsFailed_concat (marks : List (Instant × Mark)) (mark : Instant × Mark) :
    endsFailed (marks ++ [mark]) = mark.2.isFail := by
  simp [endsFailed]

/-- What a result tells of the marks that led to it. -/
structure Tells (marks : List (Instant × Mark)) (r : ExecutionResult) : Prop where
  error : r.error.isSome = true ↔ r.status = .failed
  reason : r.reason.isSome = true → r.status = .skipped ∨ r.status = .pending
  completed : r.status = .passed ∨ r.status = .failed ∨ r.status = .skipped → r.completedAt.isSome = true
  incomplete : r.completedAt = none → r.status = .pending ∧ r.error = none ∧ r.reason = none
  started : r.startedAt.isSome = true ↔ Started marks
  failed : r.status = .failed ↔ endsFailed marks = true

theorem tells_nil : Tells [] {} where
  error := by simp
  reason := by simp
  completed := by simp
  incomplete := by simp
  started := by simp [Started]
  failed := by simp [endsFailed]

/-- Every mark keeps what a result tells: it settles anew all but the start, which only a start or a reset
changes. -/
theorem Tells.after (h : Tells marks r) (now : Instant) (m : Mark) :
    Tells (marks ++ [(now, m)]) (r.after now m) := by
  cases m with
  | start => constructor <;> simp [ExecutionResult.after]
  | pass => constructor <;> simp [ExecutionResult.after, complete, h.started]
  | fail error => constructor <;> simp [ExecutionResult.after, complete, h.started]
  | skip reason => constructor <;> simp [ExecutionResult.after, complete, h.started]
  | pend reason => constructor <;> simp [ExecutionResult.after, complete, h.started]
  | reset => constructor <;> simp [ExecutionResult.after]

theorem tells_ofMarks (marks : List (Instant × Mark)) : Tells marks (ofMarks marks) := by
  induction marks using List.reverseRecOn with
  | nil => exact tells_nil
  | append_singleton marks mark ih =>
    rw [ofMarks, List.foldl_concat]
    exact ih.after mark.1 mark.2

end ExecutionResult

namespace TestRun

/-- What can happen while a plan is run: an execution is marked, or all are reset. -/
inductive Event where
  | mark (id : String) (mark : Mark)
  | reset

def Event.markOn? (id : String) : Event → Option Mark
  | .mark id' m => if id = id' then some m else none
  | .reset => some .reset

def after (r : TestRun) (now : Instant) : Event → TestRun
  | .mark id m => r.mark now id m
  | .reset => r.reset

def replay (plan : TestPlan) (history : List (Instant × Event)) : TestRun :=
  history.foldl (fun r event => r.after event.1 event.2) (.ofPlan plan)

def marksOn (id : String) (history : List (Instant × Event)) : List (Instant × Mark) :=
  history.filterMap fun event => (event.2.markOn? id).map (event.1, ·)

@[simp] theorem marksOn_concat (id : String) (history : List (Instant × Event)) (event : Instant × Event) :
    marksOn id (history ++ [event]) =
      marksOn id history ++ ((event.2.markOn? id).map (event.1, ·)).toList := by
  rw [marksOn, List.filterMap_append, filterMap_singleton, ← marksOn]

variable {r : TestRun} {plan : TestPlan} {e : Execution} {result : ExecutionResult}

theorem result?_mark (r : TestRun) (now : Instant) (id id' : String) (m : Mark) :
    (r.mark now id m).result? id' =
      if id' = id then (r.result? id').map (·.after now m) else r.result? id' :=
  r.results.find?_modify id id' _

theorem result?_ofPlan (he : e ∈ plan.executions) : (ofPlan plan).result? e.id = some {} :=
  lookup_map_const Execution.id ({} : ExecutionResult) he

@[simp] theorem plan_after (r : TestRun) (now : Instant) (event : Event) :
    (r.after now event).plan = r.plan := by
  cases event with
  | mark id m => rfl
  | reset => rfl

@[simp] theorem plan_replay (plan : TestPlan) (history : List (Instant × Event)) :
    (replay plan history).plan = plan := by
  induction history using List.reverseRecOn with
  | nil => rfl
  | append_singleton history event ih => rw [replay, List.foldl_concat, plan_after, ← replay, ih]

theorem result?_after (he : e ∈ r.plan.executions) (hresult : r.result? e.id = some result) (now : Instant)
    (event : Event) :
    (r.after now event).result? e.id = some ((event.markOn? e.id).elim result (result.after now)) := by
  cases event with
  | mark id m =>
    rw [after, result?_mark, hresult]
    by_cases hid : e.id = id
    · simp [Event.markOn?, hid]
    · simp [Event.markOn?, hid]
  | reset => exact result?_ofPlan he

theorem result?_replay (he : e ∈ plan.executions) (history : List (Instant × Event)) :
    (replay plan history).result? e.id = some (.ofMarks (marksOn e.id history)) := by
  induction history using List.reverseRecOn with
  | nil => exact result?_ofPlan he
  | append_singleton history event ih =>
    have hplan : e ∈ (replay plan history).plan.executions := (plan_replay plan history).symm ▸ he
    -- The marks so far are those before the last event, which adds one or none.
    rw [replay, List.foldl_concat, ← replay, result?_after hplan ih, marksOn_concat]
    cases hmark : event.2.markOn? e.id with
    | none => simp
    | some m => simp [ExecutionResult.ofMarks]

/-- Whatever happens to the executions of a plan in whatever order, the result of each tells of the marks
on it, no mark on one changes the result of another, and those are listed as failed, in the order of
the tree, that failed last of all. -/
theorem replay_tells {m : Plan.Materials} {μ : Matchers}
    (h : ((Plan.assemble m).outcome μ).1 = .ok plan) (history : List (Instant × Event)) :
    (∀ e ∈ plan.executions, ∃ result, (replay plan history).result? e.id = some result ∧
      result.Tells (marksOn e.id history)) ∧
    (∀ e ∈ plan.executions, ∀ e' ∈ plan.executions, e' ≠ e → ∀ now mark,
      ((replay plan history).mark now e.id mark).result? e'.id = (replay plan history).result? e'.id) ∧
    (replay plan history).failed =
      plan.feature.executions.filter fun e => ExecutionResult.endsFailed (marksOn e.id history) := by
  obtain ⟨ws, s, hassembled⟩ := Plan.assembled_of_ok h
  have hcoherent := hassembled.coherent
  refine ⟨fun e he => ?_, fun e he e' he' hne now mark => ?_, ?_⟩
  · exact ⟨_, result?_replay he history, ExecutionResult.tells_ofMarks _⟩
  · -- Marks go by identifiers, of which an assembled plan has no two alike.
    have hid : e'.id ≠ e.id := fun hid => hne (List.inj_on_of_nodup_map hcoherent.ids he' he hid)
    rw [result?_mark, if_neg hid]
  · rw [failed, plan_replay, ← hcoherent.flat]
    refine List.filter_congr fun e he => ?_
    rw [result?_replay he, Option.any_some, Bool.eq_iff_iff, decide_eq_true_iff]
    exact (ExecutionResult.tells_ofMarks _).failed

def retried : List (Instant × Event) := [
  (1, .mark "scenarioOutline-1#1" .start),
  (2, .mark "scenarioOutline-1#2" (.fail "no milk")),
  (3, .mark "scenarioOutline-1#1" (.fail "no tea")),
  (4, .mark "scenarioOutline-1#1" .start)]

theorem retried_tells : ∃ plan, ((Plan.assemble Plan.twoGroupsMaterials).outcome {}).1 = .ok plan ∧
    (replay plan retried).failed.map (·.id) = ["scenarioOutline-1#2"] ∧
    ∃ result, (replay plan retried).result? "scenarioOutline-1#1" = some result ∧
      result.Tells [(1, .start), (3, .fail "no tea"), (4, .start)] := by
  have hids : (((Plan.assemble Plan.twoGroupsMaterials).outcome {}).1.toOption.map fun plan =>
      (plan.executions.map (·.id), plan.feature.executions.map (·.id))) =
        some (["scenarioOutline-1#1", "scenarioOutline-1#2"],
          ["scenarioOutline-1#1", "scenarioOutline-1#2"]) := by
    decide +kernel
  obtain ⟨plan, hplan, hids⟩ := Option.map_eq_some_iff.1 hids
  obtain ⟨hlist, htree⟩ := Prod.mk.inj hids
  have hok := eq_ok_of_toOption hplan
  obtain ⟨htells, -, hfailed⟩ := replay_tells hok retried
  refine ⟨plan, hok, ?_, ?_⟩
  · calc (replay plan retried).failed.map (·.id)
        = (plan.feature.executions.map (·.id)).filter fun id =>
            ExecutionResult.endsFailed (marksOn id retried) := by
          rw [hfailed, List.filter_map, Function.comp_def]
      _ = ["scenarioOutline-1#2"] := by
          rw [htree]
          decide
  · obtain ⟨e, he, hid⟩ := List.mem_map.1 (hlist ▸ List.mem_cons_self)
    obtain ⟨result, hresult, hmarks⟩ := htells e he
    rw [hid] at hresult hmarks
    exact ⟨result, hresult, hmarks⟩

end TestRun
end FeaturePlan
