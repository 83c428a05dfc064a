import FeaturePlan.Text.WordDiff
import Mathlib.Data.List.Basic
import Mathlib.Order.Bounds.Basic
import Mathlib.Order.MinMax

/-!
Every cell of the table holds the length of a longest common subsequence of what both lists end with. A walk
through the table takes no change that the lists do not have, and it is never worse off for keeping a word as
soon as both lists begin with it, so the words that it keeps are a longest common subsequence.
-/
namespace FeaturePlan
namespace WordDiff

variable {α : Type} {k l : Nat} {x y : α} {xs ys : List α}

namespace Change

def old? : Change α → Option α
  | .kept w | .removed w => some w
  | .added _ => none

def new? : Change α → Option α
  | .kept w | .added w => some w
  | .removed _ => none

def kept? : Change α → Option α
  | .kept w => some w
  | .removed _ | .added _ => none

end Change

theorem filterMap_kept?_sublist_old? (cs : List (Change α)) :
    (cs.filterMap Change.kept?).Sublist (cs.filterMap Change.old?) := by
  induction cs with
  | nil => exact List.Sublist.refl _
  | cons c cs ih =>
    cases c with
    | kept w => exact ih.cons_cons w
    | removed w => exact ih.cons w
    | added w => exact ih

theorem filterMap_kept?_sublist_new? (cs : List (Change α)) :
    (cs.filterMap Change.kept?).Sublist (cs.filterMap Change.new?) := by
  induction cs with
  | nil => exact List.Sublist.refl _
  | cons c cs ih =>
    cases c with
    | kept w => exact ih.cons_cons w
    | removed w => exact ih
    | added w => exact ih.cons w

theorem filterMap_old?_perm (cs : List (Change α)) :
    (cs.filterMap Change.old?).Perm (cs.filterMap Change.kept? ++ cs.filterMap Change.removed?) := by
  induction cs with
  | nil => exact .nil
  | cons c cs ih =>
    cases c with
    | kept w => exact ih.cons w
    | removed w => exact (ih.cons w).trans List.perm_middle.symm
    | added w => exact ih

theorem filterMap_new?_perm (cs : List (Change α)) :
    (cs.filterMap Change.new?).Perm (cs.filterMap Change.kept? ++ cs.filterMap Change.added?) := by
  induction cs with
  | nil => exact .nil
  | cons c cs ih =>
    cases c with
    | kept w => exact ih.cons w
    | removed w => exact ih
    | added w => exact (ih.cons w).trans List.perm_middle.symm

def commonLengths (xs ys : List α) : Set Nat :=
  {k | ∃ c : List α, c.Sublist xs ∧ c.Sublist ys ∧ c.length = k}

theorem isGreatest_nil_left (ys : List α) : IsGreatest (commonLengths [] ys) 0 := by
  refine ⟨⟨[], List.Sublist.refl _, List.nil_sublist _, rfl⟩, ?_⟩
  rintro k ⟨c, hc, -, rfl⟩
  exact hc.length_le

theorem isGreatest_nil_right (xs : List α) : IsGreatest (commonLengths xs []) 0 := by
  refine ⟨⟨[], List.nil_sublist _, List.Sublist.refl _, rfl⟩, ?_⟩
  rintro k ⟨c, -, hc, rfl⟩
  exact hc.length_le

theorem isGreatest_cons_self (h : IsGreatest (commonLengths xs ys) k) :
    IsGreatest (commonLengths (x :: xs) (x :: ys)) (k + 1) := by
  constructor
  · obtain ⟨c, hxs, hys, rfl⟩ := h.1
    exact ⟨x :: c, hxs.cons_cons x, hys.cons_cons x, rfl⟩
  · rintro l ⟨c, hxs, hys, rfl⟩
    have htail : c.tail.length ≤ k := h.2 ⟨c.tail, hxs.tail, hys.tail, rfl⟩
    rw [List.length_tail] at htail
    omega

theorem isGreatest_cons_of_ne (hne : x ≠ y) (hk : IsGreatest (commonLengths xs (y :: ys)) k)
    (hl : IsGreatest (commonLengths (x :: xs) ys) l) :
    IsGreatest (commonLengths (x :: xs) (y :: ys)) (max k l) := by
  constructor
  · rcases max_choice k l with hmax | hmax
    · obtain ⟨c, hxs, hys, rfl⟩ := hk.1
      exact ⟨c, hxs.cons x, hys, hmax.symm⟩
    · obtain ⟨c, hxs, hys, rfl⟩ := hl.1
      exact ⟨c, hxs, hys.cons y, hmax.symm⟩
  · rintro _ ⟨c, hxs, hys, rfl⟩
    rcases List.sublist_cons_iff.1 hxs with hxs' | ⟨c', rfl, -⟩
    · exact le_max_of_le_left (hk.2 ⟨c, hxs', hys, rfl⟩)
    · rcases List.sublist_cons_iff.1 hys with hys' | ⟨c'', hc, -⟩
      · exact le_max_of_le_right (hl.2 ⟨x :: c', hxs, hys', rfl⟩)
      · exact absurd (List.cons.inj hc).1 hne

variable {m n : Nat} {old : Vector α m} {new : Vector α n}

/-- The cells of a row from the place `start` on hold what the table is about, for the old words `xs`. -/
def Row.Holds (new : Vector α n) (xs : List α) (start : Nat) (row : Row n) : Prop :=
  ∀ (j : Nat) (hj : j < n + 1), start ≤ j → IsGreatest (commonLengths xs (new.toList.drop j)) row[j]

/-- The rows from the place `start` on hold what the table is about, and the last cell of every other does. -/
def Table.Holds (old : Vector α m) (new : Vector α n) (start : Nat) (t : Table m n) : Prop :=
  ∀ (i : Nat) (hi : i < m + 1), Row.Holds new (old.toList.drop i) (if start ≤ i then 0 else n) t[i]

theorem drop_toList_eq_cons {i : Nat} (hi : i < m) (v : Vector α m) :
    v.toList.drop i = v[i] :: v.toList.drop (i + 1) := by
  rw [List.drop_eq_getElem_cons (by simpa using hi), Vector.getElem_toList]

theorem drop_toList_eq_nil {i : Nat} (hi : m ≤ i) (v : Vector α m) : v.toList.drop i = [] :=
  List.drop_eq_nil_of_le (by simpa using hi)

theorem foldRev_invariant {σ : Type} {n : Nat} {f : (i : Nat) → i < n → σ → σ} (P : Nat → σ → Prop)
    {init : σ} (hinit : P n init)
    (hstep : ∀ (i : Nat) (hi : i < n) (s : σ), P (i + 1) s → P i (f i hi s)) : P 0 (n.foldRev f init) := by
  induction n generalizing init with
  | zero => exact hinit
  | succ n ih =>
    rw [Nat.foldRev_succ]
    exact ih (hstep n (Nat.lt_succ_self n) init hinit) fun i hi => hstep i (Nat.lt_succ_of_lt hi)

variable [DecidableEq α]

theorem Row.Holds.writeCell {below row : Row n} {j : Nat} (hbelow : below.Holds new xs 0) (hj : j < n)
    (hrow : row.Holds new (x :: xs) (j + 1)) :
    (writeCell x new below j hj row).Holds new (x :: xs) j := by
  intro i hi hji
  simp only [WordDiff.writeCell]
  rcases Nat.eq_or_lt_of_le hji with rfl | hlt
  · rw [Vector.getElem_set_self]
    have hskip := hbelow j hi (Nat.zero_le j)
    rw [drop_toList_eq_cons hj] at hskip ⊢
    split
    · next heq =>
      rw [heq]
      exact isGreatest_cons_self (hbelow (j + 1) (by omega) (Nat.zero_le _))
    · next hne => exact isGreatest_cons_of_ne hne hskip (hrow (j + 1) (by omega) le_rfl)
  · rw [Vector.getElem_set_ne _ _ (by omega)]
    exact hrow i hi hlt

theorem Table.Holds.writeRow {t : Table m n} {i : Nat} (hi : i < m) (h : t.Holds old new (i + 1)) :
    (writeRow old new i hi t).Holds old new i := by
  intro i' hi'
  by_cases heq : i = i'
  · subst heq
    have hbelow := h (i + 1) (by omega)
    -- The last cell of the row is never written, so the loop over the other cells starts with it.
    have hlast := h i (by omega)
    rw [if_pos le_rfl] at hbelow
    rw [if_neg (Nat.not_succ_le_self i)] at hlast
    simp only [WordDiff.writeRow]
    rw [Vector.getElem_set_self, if_pos le_rfl]
    rw [drop_toList_eq_cons hi] at hlast ⊢
    exact foldRev_invariant (fun j row => Row.Holds new (old[i] :: old.toList.drop (i + 1)) j row) hlast
      fun j hj row => hbelow.writeCell hj
  · have hstart : i ≤ i' ↔ i + 1 ≤ i' := by omega
    simp only [WordDiff.writeRow]
    rw [Vector.getElem_set_ne _ _ heq, if_congr hstart rfl rfl]
    exact h i' hi'

theorem table_holds (old : Vector α m) (new : Vector α n) : (table old new).Holds old new 0 := by
  refine foldRev_invariant (fun i (t : Table m n) => t.Holds old new i) ?_ fun i hi t h => h.writeRow hi
  intro i hi j hj hstart
  rw [Vector.getElem_replicate, Vector.getElem_replicate]
  by_cases hmi : m ≤ i
  · rw [drop_toList_eq_nil hmi]
    exact isGreatest_nil_left _
  · rw [if_neg hmi] at hstart
    rw [drop_toList_eq_nil hstart]
    exact isGreatest_nil_right _

theorem isGreatest_table (old : Vector α m) (new : Vector α n) {i j : Nat} (hi : i < m + 1) (hj : j < n + 1) :
    IsGreatest (commonLengths (old.toList.drop i) (new.toList.drop j)) (table old new)[i][j] :=
  table_holds old new i hi j hj (by simp)

theorem table_of_eq {i j : Nat} (hi : i < m) (hj : j < n) (heq : old[i] = new[j]) :
    (table old new)[i][j] = (table old new)[i + 1][j + 1] + 1 := by
  have hboth := isGreatest_table old new (by omega : i < m + 1) (by omega : j < n + 1)
  have hrest := isGreatest_table old new (by omega : i + 1 < m + 1) (by omega : j + 1 < n + 1)
  rw [drop_toList_eq_cons hi, drop_toList_eq_cons hj, heq] at hboth
  exact hboth.unique (isGreatest_cons_self hrest)

theorem table_of_ne {i j : Nat} (hi : i < m) (hj : j < n) (hne : old[i] ≠ new[j]) :
    (table old new)[i][j] = max (table old new)[i + 1][j] (table old new)[i][j + 1] := by
  have hboth := isGreatest_table old new (by omega : i < m + 1) (by omega : j < n + 1)
  have hbelow := isGreatest_table old new (by omega : i + 1 < m + 1) (by omega : j < n + 1)
  have hright := isGreatest_table old new (by omega : i < m + 1) (by omega : j + 1 < n + 1)
  rw [drop_toList_eq_cons hj] at hboth hbelow
  rw [drop_toList_eq_cons hi] at hboth hright
  exact hboth.unique (isGreatest_cons_of_ne hne hbelow hright)

theorem table_at_end {i j : Nat} (hi : i < m + 1) (hj : j < n + 1) (hend : ¬ (i < m ∧ j < n)) :
    (table old new)[i][j] = 0 := by
  have hcell := isGreatest_table old new hi hj
  rcases Decidable.not_and_iff_or_not.1 hend with hm | hn
  · rw [drop_toList_eq_nil (Nat.le_of_not_lt hm)] at hcell
    exact hcell.unique (isGreatest_nil_left _)
  · rw [drop_toList_eq_nil (Nat.le_of_not_lt hn)] at hcell
    exact hcell.unique (isGreatest_nil_right _)

theorem filterMap_old?_walk (t : Table m n) (i j : Nat) :
    (walk old new t i j).filterMap Change.old? = old.toList.drop i := by
  fun_induction walk old new t i j with
  | case1 i j h _ ih => simp only [List.filterMap_cons, Change.old?, ih, drop_toList_eq_cons h.1]
  | case2 i j h _ _ ih => simp only [List.filterMap_cons, Change.old?, ih, drop_toList_eq_cons h.1]
  | case3 i j h _ _ ih => simp only [List.filterMap_cons, Change.old?, ih]
  | case4 i j h =>
    rw [List.filterMap_append, List.filterMap_map, List.filterMap_map]
    simp [Function.comp_def, Change.old?]

theorem filterMap_new?_walk (t : Table m n) (i j : Nat) :
    (walk old new t i j).filterMap Change.new? = new.toList.drop j := by
  fun_induction walk old new t i j with
  | case1 i j h heq ih => simp only [List.filterMap_cons, Change.new?, ih, heq, drop_toList_eq_cons h.2]
  | case2 i j h _ _ ih => simp only [List.filterMap_cons, Change.new?, ih]
  | case3 i j h _ _ ih => simp only [List.filterMap_cons, Change.new?, ih, drop_toList_eq_cons h.2]
  | case4 i j h =>
    rw [List.filterMap_append, List.filterMap_map, List.filterMap_map]
    simp [Function.comp_def, Change.new?]

/-- A walk keeps as many words as the cell where it starts promises. -/
theorem length_kept?_walk (i j : Nat) (hi : i < m + 1) (hj : j < n + 1) :
    ((walk old new (table old new) i j).filterMap Change.kept?).length = (table old new)[i][j] := by
  fun_induction walk old new (table old new) i j with
  | case1 i j h heq ih =>
    simp only [List.filterMap_cons, Change.kept?, List.length_cons]
    rw [ih (by omega) (by omega), table_of_eq h.1 h.2 heq]
  | case2 i j h hne hle ih =>
    simp only [List.filterMap_cons, Change.kept?]
    rw [ih (by omega) hj, table_of_ne h.1 h.2 hne, max_eq_left hle]
  | case3 i j h hne hle ih =>
    simp only [List.filterMap_cons, Change.kept?]
    rw [ih hi (by omega), table_of_ne h.1 h.2 hne, max_eq_right (Nat.le_of_not_le hle)]
  | case4 i j h =>
    rw [table_at_end hi hj h, List.filterMap_append, List.filterMap_map, List.filterMap_map]
    simp [Function.comp_def, Change.kept?]

@[simp] theorem filterMap_old?_changes (old new : List α) :
    (changes old new).filterMap Change.old? = old := filterMap_old?_walk _ 0 0

@[simp] theorem filterMap_new?_changes (old new : List α) :
    (changes old new).filterMap Change.new? = new := filterMap_new?_walk _ 0 0

theorem isGreatest_changes (old new : List α) :
    IsGreatest (commonLengths old new) ((changes old new).filterMap Change.kept?).length := by
  have hlength : ((changes old new).filterMap Change.kept?).length =
      (table old.toArray.toVector new.toArray.toVector)[0][0] :=
    length_kept?_walk 0 0 (Nat.succ_pos _) (Nat.succ_pos _)
  rw [hlength]
  exact isGreatest_table old.toArray.toVector new.toArray.toVector (Nat.succ_pos _) (Nat.succ_pos _)

/-- A script takes every word of the old text and gives every word of the new one, both in order, and no common
subsequence of the two has more words than it keeps. -/
theorem ofTexts_longest (old new : String) :
    (ofTexts old new).filterMap Change.old? = Text.words old ∧
      (ofTexts old new).filterMap Change.new? = Text.words new ∧
      IsGreatest (commonLengths (Text.words old) (Text.words new))
        ((ofTexts old new).filterMap Change.kept?).length :=
  ⟨filterMap_old?_changes _ _, filterMap_new?_changes _ _, isGreatest_changes _ _⟩

end WordDiff
end FeaturePlan
