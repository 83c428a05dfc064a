import FeaturePlan.Text.EditDistance
import Mathlib.Order.Bounds.Basic
import Mathlib.Order.MinMax

/-!
The rows hold least numbers of edits. Edits in any order come to no less than one pass over both texts, from
their first character to their last or the other way round, and the cells of a row are the least cost of
such a pass. So the edit distance of two texts is the length of a shortest script of edits from the one to the
other.
-/
namespace FeaturePlan
namespace EditDistance

variable {α : Type} {k l : Nat} {s t u v : List α}

/-- A change of one character, at a place counted from 0. -/
inductive Edit (α : Type) where
  | insert (place : Nat) (c : α)
  | delete (place : Nat)
  | substitute (place : Nat) (c : α)
deriving DecidableEq, Repr

namespace Edit

def run? : Edit α → List α → Option (List α)
  | .insert place c, s => if place ≤ s.length then some (s.insertIdx place c) else none
  | .delete place, s => if place < s.length then some (s.eraseIdx place) else none
  | .substitute place c, s => if place < s.length then some (s.set place c) else none

def runAll? (script : List (Edit α)) (s : List α) : Option (List α) :=
  script.foldlM (fun s e => e.run? s) s

/-- The same edit where one more character stands in front. -/
def shift : Edit α → Edit α
  | .insert place c => .insert (place + 1) c
  | .delete place => .delete (place + 1)
  | .substitute place c => .substitute (place + 1) c

theorem run?_shift (e : Edit α) (x : α) (s : List α) :
    e.shift.run? (x :: s) = (e.run? s).map (x :: ·) := by
  cases e <;> simp only [shift, run?, List.length_cons, Nat.add_le_add_iff_right,
    Nat.add_lt_add_iff_right] <;> split <;> rfl

theorem runAll?_cons (e : Edit α) (script : List (Edit α)) (s : List α) :
    runAll? (e :: script) s = (e.run? s).bind (runAll? script) := rfl

theorem runAll?_shift (script : List (Edit α)) (x : α) (s : List α) :
    runAll? (script.map shift) (x :: s) = (runAll? script s).map (x :: ·) := by
  induction script generalizing s with
  | nil => rfl
  | cons e script ih =>
    rw [List.map_cons, runAll?_cons, runAll?_cons, run?_shift]
    cases e.run? s with
    | none => rfl
    | some s' => exact ih s'

end Edit

/-- One pass over two texts makes the second of the first, and at most `k` characters differ. -/
inductive Within : Nat → List α → List α → Prop
  | done {k : Nat} : Within k [] []
  | keep (x : α) {k : Nat} {s t : List α} (h : Within k s t) : Within k (x :: s) (x :: t)
  | substitute (x y : α) {k : Nat} {s t : List α} (h : Within k s t) : Within (k + 1) (x :: s) (y :: t)
  | insert (y : α) {k : Nat} {s t : List α} (h : Within k s t) : Within (k + 1) s (y :: t)
  | delete (x : α) {k : Nat} {s t : List α} (h : Within k s t) : Within (k + 1) (x :: s) t

namespace Within

theorem mono (h : Within k s t) (hkl : k ≤ l) : Within l s t := by
  induction h generalizing l with
  | done => exact .done
  | keep x _ ih => exact .keep x (ih hkl)
  | substitute x y _ ih =>
    obtain ⟨l, rfl⟩ := Nat.exists_eq_add_of_le' hkl
    exact .substitute x y (ih (Nat.le_add_left _ _))
  | insert y _ ih =>
    obtain ⟨l, rfl⟩ := Nat.exists_eq_add_of_le' hkl
    exact .insert y (ih (Nat.le_add_left _ _))
  | delete x _ ih =>
    obtain ⟨l, rfl⟩ := Nat.exists_eq_add_of_le' hkl
    exact .delete x (ih (Nat.le_add_left _ _))

theorem refl (s : List α) : Within 0 s s := by
  induction s with
  | nil => exact .done
  | cons x s ih => exact .keep x ih

theorem symm (h : Within k s t) : Within k t s := by
  induction h with
  | done => exact .done
  | keep x _ ih => exact .keep x ih
  | substitute x y _ ih => exact .substitute y x ih
  | insert y _ ih => exact .delete y ih
  | delete x _ ih => exact .insert x ih

theorem append (h : Within k s t) (h' : Within l u v) : Within (k + l) (s ++ u) (t ++ v) := by
  induction h with
  | done => exact h'.mono (Nat.le_add_left _ _)
  | keep x _ ih => exact .keep x ih
  | substitute x y _ ih => exact (Nat.add_right_comm _ _ _) ▸ .substitute x y ih
  | insert y _ ih => exact (Nat.add_right_comm _ _ _) ▸ .insert y ih
  | delete x _ ih => exact (Nat.add_right_comm _ _ _) ▸ .delete x ih

theorem reverse (h : Within k s t) : Within k s.reverse t.reverse := by
  induction h with
  | done => exact .done
  | keep x _ ih =>
    rw [List.reverse_cons, List.reverse_cons]
    exact ih.append (.keep x (.done (k := 0)))
  | substitute x y _ ih =>
    rw [List.reverse_cons, List.reverse_cons]
    exact ih.append (.substitute x y (.done (k := 0)))
  | insert y _ ih => simpa using ih.append (.insert y (.done (k := 0)))
  | delete x _ ih => simpa using ih.append (.delete x (.done (k := 0)))

theorem reverse_iff : Within k s.reverse t.reverse ↔ Within k s t :=
  ⟨fun h => by simpa only [List.reverse_reverse] using h.reverse, reverse⟩

theorem length_le (h : Within k s t) : t.length ≤ s.length + k := by
  induction h with
  | done => exact Nat.zero_le _
  | keep => simp only [List.length_cons]; omega
  | substitute => simp only [List.length_cons]; omega
  | insert => simp only [List.length_cons]; omega
  | delete => simp only [List.length_cons]; omega

theorem of_nil (t : List α) : Within t.length [] t := by
  induction t with
  | nil => exact .done
  | cons y t ih => exact .insert y ih

/-! One more edit in front of a pass makes a pass again, wherever the edit is. -/

theorem of_inserted {c : α} : ∀ {k : Nat} {s t : List α}, Within k (c :: s) t → Within (k + 1) s t
  | _, _, _, .keep _ h => .insert c h
  | _, _, _, .substitute _ y h => .insert y (h.mono (Nat.le_succ _))
  | _, _, _, .insert y h => .insert y (of_inserted h)
  | _, _, _, .delete _ h => h.mono (Nat.le_add_right _ 2)

theorem of_substituted {c d : α} :
    ∀ {k : Nat} {s t : List α}, Within k (d :: s) t → Within (k + 1) (c :: s) t
  | _, _, _, .keep _ h => .substitute c d h
  | _, _, _, .substitute _ y h => .substitute c y (h.mono (Nat.le_succ _))
  | _, _, _, .insert y h => .insert y (of_substituted h)
  | _, _, _, .delete _ h => .delete c (h.mono (Nat.le_succ _))

theorem of_edited_behind {x : α} (hedit : ∀ k t, Within k u t → Within (k + 1) s t) :
    ∀ {k : Nat} {t : List α}, Within k (x :: u) t → Within (k + 1) (x :: s) t
  | _, _, .keep _ h => .keep x (hedit _ _ h)
  | _, _, .substitute _ y h => .substitute x y (hedit _ _ h)
  | _, _, .insert y h => .insert y (of_edited_behind hedit h)
  | _, _, .delete _ h => .delete x (hedit _ _ h)

theorem of_run? {e : Edit α} (he : e.run? s = some u) (h : Within k u t) : Within (k + 1) s t := by
  induction s generalizing e u k t with
  | nil =>
    cases e with
    | insert place c =>
      cases place with
      | zero =>
        cases he
        exact of_inserted h
      | succ place => cases he
    | delete place => cases he
    | substitute place c => cases he
  | cons x s ih =>
    -- An edit at a later place is the shift of an edit of the text without its first character.
    have hshift : ∀ e' : Edit α, e'.shift.run? (x :: s) = some u → Within (k + 1) (x :: s) t := by
      intro e' he'
      rw [Edit.run?_shift] at he'
      obtain ⟨u', hu', rfl⟩ := Option.map_eq_some_iff.1 he'
      exact of_edited_behind (fun _ _ => ih hu') h
    cases e with
    | insert place c =>
      cases place with
      | zero =>
        cases he
        exact of_inserted h
      | succ place => exact hshift (.insert place c) he
    | delete place =>
      cases place with
      | zero =>
        cases he
        exact .delete x h
      | succ place => exact hshift (.delete place) he
    | substitute place c =>
      cases place with
      | zero =>
        cases he
        exact of_substituted h
      | succ place => exact hshift (.substitute place c) he

theorem of_runAll? {script : List (Edit α)} (h : Edit.runAll? script s = some t) :
    Within script.length s t := by
  induction script generalizing s with
  | nil =>
    obtain rfl : s = t := Option.some.inj h
    exact refl s
  | cons e script ih =>
    obtain ⟨u, hu, hscript⟩ := Option.bind_eq_some_iff.1 h
    exact of_run? hu (ih hscript)

theorem exists_script (h : Within k s t) :
    ∃ script, script.length ≤ k ∧ Edit.runAll? script s = some t := by
  have hshift : ∀ {script : List (Edit α)} {s t : List α} (x : α), Edit.runAll? script s = some t →
      Edit.runAll? (script.map Edit.shift) (x :: s) = some (x :: t) := by
    intro script s t x hscript
    rw [Edit.runAll?_shift, hscript]
    rfl
  induction h with
  | done => exact ⟨[], Nat.zero_le _, rfl⟩
  | keep x _ ih =>
    obtain ⟨script, hlength, hscript⟩ := ih
    exact ⟨script.map Edit.shift, by rwa [List.length_map], hshift x hscript⟩
  | substitute x y _ ih =>
    obtain ⟨script, hlength, hscript⟩ := ih
    refine ⟨.substitute 0 y :: script.map Edit.shift, ?_, hshift y hscript⟩
    rw [List.length_cons, List.length_map]
    exact Nat.succ_le_succ hlength
  | insert y _ ih =>
    obtain ⟨script, hlength, hscript⟩ := ih
    refine ⟨.insert 0 y :: script.map Edit.shift, ?_, hshift y hscript⟩
    rw [List.length_cons, List.length_map]
    exact Nat.succ_le_succ hlength
  | delete x _ ih =>
    obtain ⟨script, hlength, hscript⟩ := ih
    exact ⟨.delete 0 :: script, Nat.succ_le_succ hlength, hscript⟩

/-- Edits after edits are edits, although two passes are not one. -/
theorem trans (h : Within k s t) (h' : Within l t u) : Within (k + l) s u := by
  obtain ⟨script, hlength, hscript⟩ := h.exists_script
  obtain ⟨script', hlength', hscript'⟩ := h'.exists_script
  have hboth : Edit.runAll? (script ++ script') s = some u := by
    rw [Edit.runAll?, List.foldlM_append]
    exact Option.bind_eq_some_iff.2 ⟨t, hscript, hscript'⟩
  refine (of_runAll? hboth).mono ?_
  rw [List.length_append]
  omega

theorem zero_iff : Within 0 s t ↔ s = t := by
  constructor
  · intro h
    obtain ⟨script, hlength, hscript⟩ := h.exists_script
    obtain rfl := List.eq_nil_of_length_eq_zero (Nat.le_zero.1 hlength)
    exact Option.some.inj hscript
  · rintro rfl
    exact refl s

end Within

/-- A shortest script has as many edits as the cheapest pass. -/
theorem isLeast_script (h : IsLeast {k | Within k s t} l) :
    IsLeast {k | ∃ script, script.length = k ∧ Edit.runAll? script s = some t} l := by
  obtain ⟨hl, hleast⟩ := h
  constructor
  · obtain ⟨script, hlength, hscript⟩ := hl.exists_script
    exact ⟨script, Nat.le_antisymm hlength (hleast (.of_runAll? hscript)), hscript⟩
  · rintro k ⟨script, rfl, hscript⟩
    exact hleast (.of_runAll? hscript)

theorem isLeast_nil_left (t : List α) : IsLeast {k | Within k [] t} t.length :=
  ⟨.of_nil t, fun k h => by simpa using Within.length_le h⟩

theorem isLeast_nil_right (s : List α) : IsLeast {k | Within k s []} s.length :=
  ⟨(Within.of_nil s).symm, fun k h => by simpa using Within.length_le (Within.symm h)⟩

variable [DecidableEq α]

theorem isLeast_cons {a b c : Nat} {x y : α} (ha : IsLeast {k | Within k s t} a)
    (hb : IsLeast {k | Within k s (y :: t)} b) (hc : IsLeast {k | Within k (x :: s) t} c) :
    IsLeast {k | Within k (x :: s) (y :: t)} (min (min (a + if x = y then 0 else 1) (b + 1)) (c + 1)) := by
  constructor
  · -- Each of the three ways is a pass, and so is the cheapest of them.
    have hsubstitute : Within (a + if x = y then 0 else 1) (x :: s) (y :: t) := by
      split
      · next hxy =>
        subst hxy
        exact .keep x ha.1
      · exact .substitute x y ha.1
    have hdelete : Within (b + 1) (x :: s) (y :: t) := .delete x hb.1
    have hinsert : Within (c + 1) (x :: s) (y :: t) := .insert y hc.1
    rcases min_choice (min (a + if x = y then 0 else 1) (b + 1)) (c + 1) with h | h
    · rcases min_choice (a + if x = y then 0 else 1) (b + 1) with h' | h'
      · rwa [h, h']
      · rwa [h, h']
    · rwa [h]
  · -- A pass begins in one of the three ways, and what follows costs no less than the least.
    intro k hk
    cases hk with
    | keep _ h =>
      have := ha.2 h
      rw [if_pos rfl]
      omega
    | substitute _ _ h =>
      have := ha.2 h
      split <;> omega
    | insert _ h =>
      have := hc.2 h
      omega
    | delete _ h =>
      have := hb.2 h
      omega

variable {n : Nat} {b : Vector α n} {done : List α} {above row : Row n}

/-- The first cells of a row, up to the place `upTo`, hold the least costs of passes from what was read, which
is given from its end to its beginning. -/
def Row.Holds (b : Vector α n) (done : List α) (upTo : Nat) (row : Row n) : Prop :=
  ∀ (j : Nat) (hj : j < n + 1), j ≤ upTo →
    IsLeast {k | Within k done (b.toList.take j).reverse} row[j]

omit [DecidableEq α] in
theorem Row.Holds.start (b : Vector α n) : (Rows.start n).current.Holds b [] n := by
  intro j hj _
  have hlength : (b.toList.take j).reverse.length = j := by
    rw [List.length_reverse, List.length_take, Vector.length_toList]
    omega
  have hcell : (Rows.start n).current[j] = j := Vector.getElem_range hj
  rw [hcell]
  simpa only [hlength] using isLeast_nil_left (b.toList.take j).reverse

/-- What a cell needs stands in the row above and in the cells written before it. -/
theorem Row.Holds.writeCell {x : α} {j : Nat} (habove : above.Holds b done n) (hj : j < n)
    (hrow : row.Holds b (x :: done) j) : (writeCell x b above j hj row).Holds b (x :: done) (j + 1) := by
  intro i hi hij
  rw [EditDistance.writeCell]
  rcases Nat.lt_or_eq_of_le hij with hlt | rfl
  · rw [Vector.getElem_set_ne _ _ (by omega)]
    exact hrow i hi (by omega)
  · rw [Vector.getElem_set_self]
    have htake : (b.toList.take (j + 1)).reverse = b[j] :: (b.toList.take j).reverse := by
      rw [List.take_succ_eq_append_getElem (by simpa using hj), List.reverse_append, Vector.getElem_toList]
      rfl
    have hdelete := habove (j + 1) hi (by omega)
    rw [htake] at hdelete ⊢
    exact isLeast_cons (habove j (by omega) (by omega)) hdelete (hrow j (by omega) le_rfl)

theorem fold_invariant {σ : Type} {n : Nat} {f : (i : Nat) → i < n → σ → σ} (P : Nat → σ → Prop) {init : σ}
    (hinit : P 0 init) (hstep : ∀ (i : Nat) (hi : i < n) (s : σ), P i s → P (i + 1) (f i hi s)) :
    P n (n.fold f init) := by
  induction n with
  | zero => exact hinit
  | succ n ih =>
    rw [Nat.fold_succ]
    exact hstep n _ _ (ih fun i hi => hstep i (Nat.lt_succ_of_lt hi))

/-- Whatever stood in the other row, it is written over before it is read. -/
theorem Row.Holds.writeRow (x : α) (habove : above.Holds b done n) (row : Row n) :
    (writeRow done.length x b above row).Holds b (x :: done) n := by
  refine fold_invariant (fun j (row : Row n) => row.Holds b (x :: done) j) ?_ fun j hj _ => habove.writeCell hj
  intro j hj hj0
  obtain rfl := Nat.le_zero.1 hj0
  rw [Vector.getElem_set_self]
  exact isLeast_nil_right (x :: done)

theorem Row.Holds.readAll {rows : Rows n} (h : rows.current.Holds b done n) (a : List α) :
    ((a.zipIdx done.length).foldl (Rows.read b) rows).current.Holds b (a.reverse ++ done) n := by
  induction a generalizing done rows with
  | nil => exact h
  | cons x a ih =>
    rw [List.zipIdx_cons, List.foldl_cons, List.reverse_cons, List.append_assoc]
    exact ih (h.writeRow x rows.spare)

theorem isLeast_distance (a b : List α) : IsLeast {k | Within k a b} (distance a b) := by
  have h := (Row.Holds.start b.toArray.toVector).readAll a b.toArray.size (Nat.lt_succ_self _) le_rfl
  have hwhole : b.toArray.toVector.toList.take b.toArray.size = b := List.take_length
  rw [hwhole, List.append_nil] at h
  simp only [Within.reverse_iff] at h
  exact h

theorem distance_self (a : List α) : distance a a = 0 :=
  Nat.eq_zero_of_le_zero ((isLeast_distance a a).2 (.refl a))

/-- The edit distance of two texts is the least number of edits that turn the one into the other. So it does
not depend on their order, is zero for equal texts only, and a way round is never shorter. -/
theorem ofStrings_isLeast (a b c : String) :
    IsLeast {k | ∃ script : List (Edit Char),
        script.length = k ∧ Edit.runAll? script a.toList = some b.toList} (ofStrings a b) ∧
      ofStrings a b = ofStrings b a ∧
      (ofStrings a b = 0 ↔ a = b) ∧
      ofStrings a c ≤ ofStrings a b + ofStrings b c := by
  have hab := isLeast_distance a.toList b.toList
  have hba := isLeast_distance b.toList a.toList
  have hbc := isLeast_distance b.toList c.toList
  have hac := isLeast_distance a.toList c.toList
  refine ⟨isLeast_script hab, ?symm, ?zero, ?triangle⟩
  case symm => exact Nat.le_antisymm (hab.2 hba.1.symm) (hba.2 hab.1.symm)
  case zero =>
    constructor
    · intro h
      have hzero : Within 0 a.toList b.toList := h ▸ hab.1
      exact String.toList_injective (Within.zero_iff.1 hzero)
    · rintro rfl
      exact distance_self a.toList
  case triangle => exact hac.2 (hab.1.trans hbc.1)

end EditDistance
end FeaturePlan
