import FeaturePlan.Proofs.Text.Runs
import Mathlib.Data.List.Chain

/-!
The order of changes. A walk adds a word only where the table promises less for removing one, and it
promises no more for that once the word is added. So no removal stands right behind an addition, and a run
of changes is its removals followed by its additions.
-/
namespace FeaturePlan
namespace WordDiff

variable {α : Type} {run : List (Change α)}

/-- The second of two changes is not a removal if the first is an addition. -/
def Orderly : Change α → Change α → Prop
  | .added _, .removed _ => False
  | _, _ => True

theorem Unkept.removed?_of_added (hrun : Unkept run) {w : α}
    (h : (Change.added w :: run).IsChain Orderly) : run.filterMap Change.removed? = [] := by
  induction run generalizing w with
  | nil => rfl
  | cons c run ih =>
    obtain ⟨hfirst, hchain⟩ := List.isChain_cons_cons.1 h
    obtain ⟨hc, hrest⟩ := List.forall_mem_cons.1 hrun
    cases c with
    | kept v => cases hc
    | removed v => exact hfirst.elim
    | added v => exact ih hrest hchain

theorem Unkept.eq_removals_append_additions (hrun : Unkept run) (h : run.IsChain Orderly) :
    run = (run.filterMap Change.removed?).map .removed ++ (run.filterMap Change.added?).map .added := by
  induction run with
  | nil => rfl
  | cons c run ih =>
    obtain ⟨hc, hrest⟩ := List.forall_mem_cons.1 hrun
    have htail := ih hrest h.tail
    cases c with
    | kept v => cases hc
    | removed v =>
      simp only [List.filterMap_cons, Change.removed?, Change.added?, List.map_cons, List.cons_append]
      rw [← htail]
    | added v =>
      have hnone := Unkept.removed?_of_added hrest h
      simp only [hnone, List.map_nil, List.nil_append] at htail
      simp only [List.filterMap_cons, Change.removed?, Change.added?, hnone, List.map_nil, List.nil_append,
        List.map_cons]
      rw [← htail]

variable [DecidableEq α] {m n : Nat} {old : Vector α m} {new : Vector α n} {i j : Nat}

theorem table_succ_le (hi : i < m + 1) (hj : j < n + 1) (hnext : j + 1 < n + 1) :
    (table old new)[i][j + 1] ≤ (table old new)[i][j] := by
  have hmore := isGreatest_table old new hi hj
  obtain ⟨c, hold, hnew, hlength⟩ := (isGreatest_table old new hi hnext).1
  rw [drop_toList_eq_cons (Nat.lt_of_succ_lt_succ hnext)] at hmore
  exact hmore.2 ⟨c, hold, hnew.cons _, hlength⟩

/-- Where removing a word loses something, it is not removed. -/
theorem removed?_head?_walk (hi : i < m + 1) (hnext : i + 1 < m + 1) (hj : j < n + 1)
    (hloss : (table old new)[i + 1][j] < (table old new)[i][j]) :
    ∀ c ∈ (walk old new (table old new) i j).head?, c.removed? = none := by
  intro c hc
  rw [walk] at hc
  split_ifs at hc with h heq hle
  · cases hc
    rfl
  · rw [table_of_ne h.1 h.2 heq, max_eq_left hle] at hloss
    exact absurd hloss (lt_irrefl _)
  · cases hc
    rfl
  · rw [table_at_end hi hj h] at hloss
    exact absurd hloss (Nat.not_lt_zero _)

theorem isChain_walk (i j : Nat) : (walk old new (table old new) i j).IsChain Orderly := by
  fun_induction walk old new (table old new) i j with
  | case1 i j h heq ih => exact ih.cons fun _ _ => trivial
  | case2 i j h hne hle ih => exact ih.cons fun _ _ => trivial
  | case3 i j h hne hlt ih =>
    have hless : (table old new)[i + 1][j + 1] ≤ (table old new)[i + 1][j] :=
      table_succ_le (by omega) (by omega) (by omega)
    have hloss : (table old new)[i + 1][j + 1] < (table old new)[i][j + 1] := by omega
    refine ih.cons fun c hc => ?_
    have hnone := removed?_head?_walk (by omega) (by omega) (by omega) hloss c hc
    cases c with
    | kept w => trivial
    | removed w => cases hnone
    | added w => trivial
  | case4 i j h =>
    refine List.Pairwise.isChain (List.pairwise_append.2 ⟨?_, ?_, ?_⟩)
    · exact List.pairwise_map.2 (List.pairwise_of_forall fun _ _ => trivial)
    · exact List.pairwise_map.2 (List.pairwise_of_forall fun _ _ => trivial)
    · intro c hc d hd
      obtain ⟨w, -, rfl⟩ := List.mem_map.1 hc
      trivial

/-- Every run of changes between two texts is made of its removals and, behind them, its additions. -/
theorem ofTexts_removals_first {old new : String} {before run behind : List (Change String)}
    (h : ofTexts old new = before ++ (run ++ behind)) (hrun : IsRun before run behind) :
    run = (run.filterMap Change.removed?).map .removed ++ (run.filterMap Change.added?).map .added := by
  have hchain : (before ++ (run ++ behind)).IsChain Orderly := h ▸ isChain_walk 0 0
  exact hrun.unkept.eq_removals_append_additions hchain.right_of_append.left_of_append

/-- The last run of these texts begins in the table and ends behind it. -/
theorem figs_removals_first :
    ofTexts "I eat two figs" "I eat some now" =
      [.kept "I", .kept "eat"] ++ ([.removed "two", .removed "figs", .added "some", .added "now"] ++ []) ∧
    IsRun [.kept "I", .kept "eat"] [.removed "two", .removed "figs", .added "some", .added "now"] [] ∧
    [.removed "two", .removed "figs", .added "some", .added "now"] =
      ["two", "figs"].map Change.removed ++ ["some", "now"].map .added := by
  have hscript : ofTexts "I eat two figs" "I eat some now" =
      [.kept "I", .kept "eat"] ++ ([.removed "two", .removed "figs", .added "some", .added "now"] ++ []) := by
    decide +kernel
  have hrun : IsRun [.kept "I", .kept "eat"]
      [.removed "two", .removed "figs", .added "some", .added "now"] [] := by
    refine ⟨?_, ?_, keepsNext_nil⟩
    · simp [Unkept, Change.isKept]
    · simp [Change.isKept]
  exact ⟨hscript, hrun, ofTexts_removals_first hscript hrun⟩

end WordDiff
end FeaturePlan
