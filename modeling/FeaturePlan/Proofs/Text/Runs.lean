import FeaturePlan.Proofs.Text.WordDiff
import Mathlib.Data.List.TakeWhile

/-!
Runs of changes. The words that a script keeps cut it into runs, in which words are removed and added only. A
run is told from the rest of the script by its place, so a script is read run by run in one way.
-/
namespace FeaturePlan
namespace WordDiff

variable {α : Type} {run run' rest rest' : List (Change α)}

def Unkept (run : List (Change α)) : Prop := ∀ c ∈ run, c.isKept = false

/-- A word is kept next, or nothing follows. -/
def KeepsNext (rest : List (Change α)) : Prop := ∀ c ∈ rest.head?, c.isKept = true

/-- All changes between two words that are kept one after the other, or between such a word and an end of
the script. -/
structure IsRun (before run behind : List (Change α)) : Prop where
  unkept : Unkept run
  start : ∀ c ∈ before.getLast?, c.isKept = true
  stop : KeepsNext behind

theorem keepsNext_nil : KeepsNext ([] : List (Change α)) := by
  intro c hc
  cases hc

theorem keepsNext_kept (w : α) (cs : List (Change α)) : KeepsNext (.kept w :: cs) := by
  intro c hc
  cases hc
  rfl

theorem Unkept.takeWhile_append (hrun : Unkept run) (hrest : KeepsNext rest) :
    (run ++ rest).takeWhile (!·.isKept) = run := by
  rw [List.takeWhile_append_of_pos fun c hc => by rw [hrun c hc, Bool.not_false]]
  cases rest with
  | nil => exact List.append_nil run
  | cons c rest => rw [List.takeWhile_cons_of_neg (by rw [hrest c rfl]; decide), List.append_nil]

theorem Unkept.dropWhile_append (hrun : Unkept run) (hrest : KeepsNext rest) :
    (run ++ rest).dropWhile (!·.isKept) = rest := by
  rw [List.dropWhile_append_of_pos fun c hc => by rw [hrun c hc, Bool.not_false]]
  cases rest with
  | nil => rfl
  | cons c rest => exact List.dropWhile_cons_of_neg (by rw [hrest c rfl]; decide)

theorem Unkept.append_inj (hrun : Unkept run) (hrest : KeepsNext rest) (hrun' : Unkept run')
    (hrest' : KeepsNext rest') (h : run ++ rest = run' ++ rest') : run = run' ∧ rest = rest' := by
  constructor
  · rw [← hrun.takeWhile_append hrest, h, hrun'.takeWhile_append hrest']
  · rw [← hrun.dropWhile_append hrest, h, hrun'.dropWhile_append hrest']

/-- What holds of a last run, and of a run with a kept word behind it if it holds of all that follows, holds of
every script. -/
@[elab_as_elim] theorem run_induction {P : List (Change α) → Prop}
    (last : ∀ run, Unkept run → P run)
    (kept : ∀ run w cs, Unkept run → P cs → P (run ++ .kept w :: cs)) (cs : List (Change α)) : P cs := by
  suffices hrun : ∀ run, Unkept run → P (run ++ cs) from hrun [] fun c hc => by cases hc
  induction cs with
  | nil =>
    intro run hrun
    rw [List.append_nil]
    exact last run hrun
  | cons c cs ih =>
    intro run hrun
    have hmore : c.isKept = false → P (run ++ c :: cs) := by
      intro hc
      rw [← List.singleton_append, ← List.append_assoc]
      refine ih (run ++ [c]) fun d hd => ?_
      rcases List.mem_append.1 hd with hd | hd
      · exact hrun d hd
      · exact List.mem_singleton.1 hd ▸ hc
    cases c with
    | kept w => exact kept run w cs hrun (ih [] fun c hc => by cases hc)
    | removed w => exact hmore rfl
    | added w => exact hmore rfl

theorem IsRun.eq_nil {before behind : List (Change α)} (h : IsRun before run behind)
    (hall : Unkept (before ++ (run ++ behind))) : before = [] ∧ behind = [] := by
  constructor
  · rcases List.eq_nil_or_concat before with rfl | ⟨initial, c, rfl⟩
    · rfl
    · have hc : c.isKept = true := h.start c (by simp)
      rw [hall c (by simp)] at hc
      cases hc
  · cases behind with
    | nil => rfl
    | cons c behind =>
      have hc : c.isKept = true := h.stop c rfl
      rw [hall c (by simp)] at hc
      cases hc

theorem IsRun.first_or_later {before behind first cs : List (Change α)} {w : α} (h : IsRun before run behind)
    (hfirst : Unkept first) (heq : before ++ (run ++ behind) = first ++ .kept w :: cs) :
    (before = [] ∧ run = first ∧ behind = .kept w :: cs) ∨
      ∃ before', before = first ++ .kept w :: before' ∧ IsRun before' run behind ∧
        before' ++ (run ++ behind) = cs := by
  rcases List.eq_nil_or_concat before with rfl | ⟨initial, c, rfl⟩
  · exact .inl ⟨rfl, h.unkept.append_inj h.stop hfirst (keepsNext_kept w cs) heq⟩
  · right
    have hc : c.isKept = true := h.start c (by simp)
    rcases List.append_eq_append_iff.1 heq with ⟨others, hothers, -⟩ | ⟨others, hothers, hrest⟩
    · -- The kept word before the run cannot be in the first run.
      have hmem : c ∈ first := by rw [hothers]; simp
      rw [hfirst c hmem] at hc
      cases hc
    · cases others with
      | nil =>
        have hmem : c ∈ first := by rw [← List.append_nil first, ← hothers]; simp
        rw [hfirst c hmem] at hc
        cases hc
      | cons d others =>
        obtain ⟨rfl, rfl⟩ := List.cons.inj hrest
        refine ⟨others, hothers, ⟨h.unkept, fun e he => h.start e ?_, h.stop⟩, rfl⟩
        rw [hothers, List.getLast?_append, List.getLast?_cons, Option.mem_def.1 he]
        rfl

theorem Unkept.filterMap_old? (h : Unkept run) :
    run.filterMap Change.old? = run.filterMap Change.removed? := by
  refine List.filterMap_congr fun c hc => ?_
  cases c with
  | kept w => cases h _ hc
  | removed w => rfl
  | added w => rfl

theorem Unkept.filterMap_new? (h : Unkept run) :
    run.filterMap Change.new? = run.filterMap Change.added? := by
  refine List.filterMap_congr fun c hc => ?_
  cases c with
  | kept w => cases h _ hc
  | removed w => rfl
  | added w => rfl

theorem Unkept.filterMap_kept? (h : Unkept run) : run.filterMap Change.kept? = [] := by
  refine List.filterMap_eq_nil_iff.2 fun c hc => ?_
  cases c with
  | kept w => cases h _ hc
  | removed w => rfl
  | added w => rfl

end WordDiff
end FeaturePlan
