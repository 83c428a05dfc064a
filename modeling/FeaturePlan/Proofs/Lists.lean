import Mathlib.Data.List.Flatten
import Mathlib.Data.List.Forall2
import Mathlib.Data.List.Induction
import Mathlib.Data.List.Nodup
import Mathlib.Data.List.Pairwise
import Mathlib.Data.List.Perm.Subperm

/-!
Results that may be failures, loops over lists that stop at the first failure, and lists without
repetition.
-/
namespace FeaturePlan

variable {ε α β : Type}

theorem except_map_eq_ok {f : α → β} {x : Except ε α} {b : β} (h : x.map f = .ok b) :
    ∃ a, x = .ok a ∧ f a = b := by
  cases x with
  | error e => cases h
  | ok a =>
    cases h
    exact ⟨a, rfl, rfl⟩

theorem except_mapError_eq_ok {ε' : Type} {f : ε → ε'} {x : Except ε α} {a : α}
    (h : x.mapError f = .ok a) : x = .ok a := by
  cases x with
  | error e => cases h
  | ok a' =>
    cases h
    rfl

theorem except_bind_eq_ok {x : Except ε α} {f : α → Except ε β} {b : β} (h : x >>= f = .ok b) :
    ∃ a, x = .ok a ∧ f a = .ok b := by
  cases x with
  | error e => cases h
  | ok a => exact ⟨a, rfl, h⟩

theorem except_bind_eq_error {x : Except ε α} {f : α → Except ε β} {e : ε} (h : x >>= f = .error e) :
    x = .error e ∨ ∃ a, x = .ok a ∧ f a = .error e := by
  cases x with
  | error e' =>
    cases h
    exact .inl rfl
  | ok a => exact .inr ⟨a, rfl, h⟩

theorem except_bind_pure_eq_error_iff {x : Except ε α} {f : α → β} {e : ε} :
    (x >>= fun a => pure (f a)) = .error e ↔ x = .error e := by
  cases x <;> simp [bind, Except.bind, pure, Except.pure]

theorem exists_ok_of_isOk {x : Except ε α} (h : x.isOk = true) : ∃ a, x = .ok a := by
  cases x with
  | error e => cases h
  | ok a => exact ⟨a, rfl⟩

theorem eq_ok_of_toOption {x : Except ε α} {a : α} (h : x.toOption = some a) : x = .ok a := by
  cases x with
  | error e => cases h
  | ok a' =>
    cases h
    rfl

theorem mapM_cons_eq_ok_iff {f : α → Except ε β} {x : α} {xs : List α} {ys : List β} :
    (x :: xs).mapM f = .ok ys ↔ ∃ y ys', f x = .ok y ∧ xs.mapM f = .ok ys' ∧ y :: ys' = ys := by
  rw [List.mapM_cons]
  cases f x with
  | error e => simp [bind, Except.bind]
  | ok y => cases xs.mapM f <;> simp [bind, Except.bind, pure, Except.pure]

theorem forall₂_of_mapM_eq_ok {f : α → Except ε β} {xs : List α} {ys : List β}
    (h : xs.mapM f = .ok ys) : List.Forall₂ (fun x y => f x = .ok y) xs ys := by
  induction xs generalizing ys with
  | nil =>
    cases h
    exact .nil
  | cons x xs ih =>
    obtain ⟨y, ys', hy, hys', rfl⟩ := mapM_cons_eq_ok_iff.1 h
    exact .cons hy (ih hys')

theorem mapM_eq_ok_iff {f : α → Except ε β} {xs : List α} {ys : List β} :
    xs.mapM f = .ok ys ↔ List.Forall₂ (fun x y => f x = .ok y) xs ys := by
  refine ⟨forall₂_of_mapM_eq_ok, fun h => ?_⟩
  induction h with
  | nil => rfl
  | cons hx _ ih => exact mapM_cons_eq_ok_iff.2 ⟨_, _, hx, ih, rfl⟩

theorem run_mapM_cons {σ : Type} (f : α → StateM σ β) (x : α) (xs : List α) (s : σ) :
    ((x :: xs).mapM f).run s =
      (((f x).run s).1 :: ((xs.mapM f).run ((f x).run s).2).1, ((xs.mapM f).run ((f x).run s).2).2) := by
  rw [List.mapM_cons]
  rfl

theorem rel_of_mapM_eq_ok {R : α → β → Prop} {f : α → Except ε β} {x : Option α} {y : Option β}
    (h : x.mapM f = .ok y) (hR : ∀ a b, f a = .ok b → R a b) : Option.Rel R x y := by
  cases x with
  | none =>
    cases h
    exact .none
  | some a =>
    obtain ⟨b, hb, rfl⟩ := except_map_eq_ok h
    exact .some (hR a b hb)

theorem length_flatMap_eq_foldr {f : α → List β} {count : α → Nat} {xs : List α}
    (h : ∀ x ∈ xs, (f x).length = count x) :
    (xs.flatMap f).length = xs.foldr (fun x n => count x + n) 0 := by
  induction xs with
  | nil => rfl
  | cons x xs ih =>
    rw [List.flatMap_cons, List.length_append, List.foldr_cons, h x List.mem_cons_self,
      ih fun y hy => h y (List.mem_cons_of_mem _ hy)]

theorem mapM_flatMap_eq_ok {γ : Type} {f : β → Except ε γ} {xs : List α} {members : α → List β}
    {results : α → List γ} (h : ∀ x ∈ xs, (members x).mapM f = .ok (results x)) :
    (xs.flatMap members).mapM f = .ok (xs.flatMap results) := by
  induction xs with
  | nil => rfl
  | cons x xs ih =>
    rw [List.flatMap_cons, List.mapM_append, h x List.mem_cons_self,
      ih fun y hy => h y (List.mem_cons_of_mem _ hy)]
    rfl

theorem mapM_map_eq_ok {γ : Type} {f : β → Except ε γ} {xs : List α} {g : α → β} {result : α → γ}
    (h : ∀ x ∈ xs, f (g x) = .ok (result x)) : (xs.map g).mapM f = .ok (xs.map result) := by
  rw [List.map_eq_flatMap, List.map_eq_flatMap]
  refine mapM_flatMap_eq_ok fun x hx => ?_
  rw [List.mapM_cons, h x hx]
  rfl

theorem mapM_map_congr {γ : Type} {g : α → β} {f : β → Except ε γ} {f' : α → Except ε γ} {xs : List α}
    (h : ∀ x ∈ xs, f (g x) = f' x) : (xs.map g).mapM f = xs.mapM f' := by
  induction xs with
  | nil => rfl
  | cons x xs ih =>
    rw [List.map_cons, List.mapM_cons, List.mapM_cons, h x List.mem_cons_self,
      ih fun y hy => h y (List.mem_cons_of_mem _ hy)]

theorem mapM_congr {f f' : α → Except ε β} {xs : List α} (h : ∀ x ∈ xs, f x = f' x) :
    xs.mapM f = xs.mapM f' := by
  rw [← mapM_map_congr (g := id) h, List.map_id]

theorem exists_of_mapM_eq_error {f : α → Except ε β} {xs : List α} {e : ε} (h : xs.mapM f = .error e) :
    ∃ before x after, xs = before ++ x :: after ∧ (∀ y ∈ before, ∃ z, f y = .ok z) ∧ f x = .error e := by
  induction xs with
  | nil => cases h
  | cons x xs ih =>
    rw [List.mapM_cons] at h
    cases hx : f x with
    | error e' =>
      rw [hx] at h
      cases h
      exact ⟨[], x, xs, rfl, fun _ hy => absurd hy List.not_mem_nil, hx⟩
    | ok z =>
      cases hxs : xs.mapM f with
      | ok zs =>
        rw [hx, hxs] at h
        cases h
      | error e' =>
        rw [hx, hxs] at h
        cases h
        obtain ⟨before, y, after, rfl, hbefore, hy⟩ := ih hxs
        exact ⟨x :: before, y, after, rfl, List.forall_mem_cons.2 ⟨⟨z, hx⟩, hbefore⟩, hy⟩

theorem mapM_eq_error_iff {f : α → Except ε β} {xs : List α} {e : ε} :
    xs.mapM f = .error e ↔
      ∃ before x after, xs = before ++ x :: after ∧ (∀ y ∈ before, ∃ z, f y = .ok z) ∧ f x = .error e := by
  refine ⟨exists_of_mapM_eq_error, ?_⟩
  rintro ⟨before, x, after, rfl, hbefore, hx⟩
  induction before with
  | nil =>
    rw [List.nil_append, List.mapM_cons, hx]
    rfl
  | cons y before ih =>
    obtain ⟨⟨z, hz⟩, hbefore⟩ := List.forall_mem_cons.1 hbefore
    rw [List.cons_append, List.mapM_cons, hz, ih hbefore]
    rfl

/-- Two computations fail in the same cases and with the same errors. -/
def FailsAlike (x : Except ε α) (y : Except ε β) : Prop := ∀ e, x = .error e ↔ y = .error e

namespace FailsAlike

variable {γ δ : Type} {x : Except ε α} {y : Except ε β}

theorem error (e : ε) : FailsAlike (.error e : Except ε α) (.error e : Except ε β) := fun e' => by simp

theorem ok (a : α) (b : β) : FailsAlike (.ok a : Except ε α) (.ok b) := fun _ => ⟨nofun, nofun⟩

theorem refl (x : Except ε α) : FailsAlike x x := fun _ => Iff.rfl

theorem trans {z : Except ε γ} (h : FailsAlike x y) (h' : FailsAlike y z) : FailsAlike x z :=
  fun e => (h e).trans (h' e)

/-- What goes on after either of two such computations may not depend on what they give. -/
theorem bind (h : FailsAlike x y) {f : α → Except ε γ} {g : β → Except ε δ}
    (hf : ∀ a b, FailsAlike (f a) (g b)) : FailsAlike (x >>= f) (y >>= g) := by
  cases x with
  | error e =>
    rw [(h e).1 rfl]
    exact .error e
  | ok a =>
    cases y with
    | error e => cases (h e).2 rfl
    | ok b => exact hf a b

theorem mapM_toList (f : α → Except ε β) (x : Option α) : FailsAlike (x.mapM f) (x.toList.mapM f) := by
  cases x with
  | none => exact .ok _ _
  | some a =>
    rw [Option.mapM_some, Option.toList_some, List.mapM_cons]
    cases f a with
    | error e => exact .error e
    | ok b => exact .ok _ _

theorem mapM_singleton (f : α → Except ε β) (x : α) : FailsAlike (f x) ([x].mapM f) := by
  rw [List.mapM_cons]
  cases f x with
  | error e => exact .error e
  | ok y => exact .ok _ _

theorem mapM_flatMap {g : α → Except ε γ} {f : β → Except ε δ} {members : α → List β}
    (h : ∀ x, FailsAlike (g x) ((members x).mapM f)) (xs : List α) :
    FailsAlike (xs.mapM g) ((xs.flatMap members).mapM f) := by
  induction xs with
  | nil => exact .ok _ _
  | cons x xs ih =>
    rw [List.mapM_cons, List.flatMap_cons, List.mapM_append]
    exact (h x).bind fun _ _ => ih.bind fun _ _ => .ok _ _

end FailsAlike

theorem mapM_mapError {δ : Type} (f : α → Except ε β) (g : ε → δ) (xs : List α) :
    (xs.mapM f).mapError g = xs.mapM fun x => (f x).mapError g := by
  induction xs with
  | nil => rfl
  | cons x xs ih =>
    rw [List.mapM_cons, List.mapM_cons, ← ih]
    cases f x with
    | error e => rfl
    | ok y => cases xs.mapM f <;> rfl

theorem exists_of_mem_right {R : α → β → Prop} {xs : List α} {ys : List β} (h : List.Forall₂ R xs ys)
    {y : β} (hy : y ∈ ys) : ∃ x ∈ xs, R x y := by
  induction h with
  | nil => cases hy
  | cons hR _ ih =>
    rcases List.mem_cons.1 hy with rfl | hy
    · exact ⟨_, List.mem_cons_self, hR⟩
    · obtain ⟨x, hx, hxy⟩ := ih hy
      exact ⟨x, List.mem_cons_of_mem _ hx, hxy⟩

theorem exists_of_mem_left {R : α → β → Prop} {xs : List α} {ys : List β} (h : List.Forall₂ R xs ys)
    {x : α} (hx : x ∈ xs) : ∃ y ∈ ys, R x y :=
  exists_of_mem_right h.flip hx

theorem exists_mapM_eq_error_iff {f : α → Except ε β} {xs : List α} :
    (∃ e, xs.mapM f = .error e) ↔ ∃ x ∈ xs, ∃ e, f x = .error e := by
  constructor
  · rintro ⟨e, h⟩
    obtain ⟨before, x, after, rfl, -, hx⟩ := exists_of_mapM_eq_error h
    exact ⟨x, List.mem_append_right before List.mem_cons_self, e, hx⟩
  · rintro ⟨x, hx, e, he⟩
    cases h : xs.mapM f with
    | error e' => exact ⟨e', rfl⟩
    | ok ys =>
      obtain ⟨y, -, hy⟩ := exists_of_mem_left (forall₂_of_mapM_eq_ok h) hx
      cases he.symm.trans hy

theorem exists_mapM_eq_ok_iff {f : α → Except ε β} {xs : List α} :
    (∃ ys, xs.mapM f = .ok ys) ↔ ∀ x ∈ xs, ∃ y, f x = .ok y := by
  constructor
  · rintro ⟨ys, hys⟩ x hx
    obtain ⟨y, -, hy⟩ := exists_of_mem_left (forall₂_of_mapM_eq_ok hys) hx
    exact ⟨y, hy⟩
  · intro h
    cases hf : xs.mapM f with
    | ok ys => exact ⟨ys, rfl⟩
    | error e =>
      obtain ⟨x, hx, e', he⟩ := exists_mapM_eq_error_iff.1 ⟨e, hf⟩
      obtain ⟨y, hy⟩ := h x hx
      cases he.symm.trans hy

theorem forall₂_of_mem {R S : α → β → Prop} {xs : List α} {ys : List β}
    (h : ∀ x ∈ xs, ∀ y ∈ ys, R x y → S x y) (hR : List.Forall₂ R xs ys) : List.Forall₂ S xs ys := by
  induction hR with
  | nil => exact .nil
  | cons hxy _ ih =>
    refine .cons (h _ List.mem_cons_self _ List.mem_cons_self hxy) (ih fun x hx y hy => ?_)
    exact h x (List.mem_cons_of_mem _ hx) y (List.mem_cons_of_mem _ hy)

theorem option_rel_of_mem {R S : α → β → Prop} {x : Option α} {y : Option β}
    (h : ∀ a ∈ x, ∀ b, R a b → S a b) (hR : Option.Rel R x y) : Option.Rel S x y := by
  cases hR with
  | none => exact .none
  | some hab => exact .some (h _ rfl _ hab)

theorem forall₂_trans {γ : Type} {R : α → β → Prop} {S : β → γ → Prop} {T : α → γ → Prop} {xs : List α}
    {ys : List β} {zs : List γ} (h : List.Forall₂ R xs ys) (h' : List.Forall₂ S ys zs)
    (hT : ∀ x y z, R x y → S y z → T x z) : List.Forall₂ T xs zs := by
  induction h generalizing zs with
  | nil =>
    cases h'
    exact .nil
  | cons hR _ ih =>
    cases h' with
    | cons hS hrest => exact .cons (hT _ _ _ hR hS) (ih hrest)

theorem forall₂_zip_map {γ : Type} {R : α → β → Prop} {xs : List α} {ys : List β}
    (h : List.Forall₂ R xs ys) (f : α → γ) :
    List.Forall₂ (fun x p => R x p.1 ∧ p.2 = f x) xs (ys.zip (xs.map f)) := by
  induction h with
  | nil => exact .nil
  | cons hR _ ih => exact .cons ⟨hR, rfl⟩ ih

theorem map_eq_map_of_forall₂ {γ : Type} {R : α → β → Prop} {f : α → γ} {g : β → γ} {xs : List α}
    {ys : List β} (h : List.Forall₂ R xs ys) (hR : ∀ x y, R x y → f x = g y) : xs.map f = ys.map g := by
  induction h with
  | nil => rfl
  | cons hxy _ ih => rw [List.map_cons, List.map_cons, hR _ _ hxy, ih]

theorem eraseDups_concat [DecidableEq α] (xs : List α) (x : α) :
    (xs ++ [x]).eraseDups = if x ∈ xs then xs.eraseDups else xs.eraseDups ++ [x] := by
  rw [List.eraseDups_append]
  by_cases h : x ∈ xs
  · simp [List.removeAll, h]
  · simp [List.removeAll, h, List.eraseDups_cons]

theorem nodup_eraseDups [DecidableEq α] (xs : List α) : xs.eraseDups.Nodup := by
  induction xs using List.reverseRecOn with
  | nil => exact .nil
  | append_singleton xs x ih =>
    rw [eraseDups_concat]
    split
    · exact ih
    · next h => exact List.concat_eq_append ▸ ih.concat (mt List.mem_eraseDups.1 h)

theorem pairwise_idxOf_eraseDups [DecidableEq α] (xs : List α) :
    xs.eraseDups.Pairwise (xs.idxOf · < xs.idxOf ·) := by
  induction xs using List.reverseRecOn with
  | nil => exact .nil
  | append_singleton xs x ih =>
    have hkept : xs.eraseDups.Pairwise ((xs ++ [x]).idxOf · < (xs ++ [x]).idxOf ·) := by
      refine ih.imp_of_mem fun {y z} hy hz hyz => ?_
      rwa [List.idxOf_append_of_mem (List.mem_eraseDups.1 hy),
        List.idxOf_append_of_mem (List.mem_eraseDups.1 hz)]
    rw [eraseDups_concat]
    split
    · exact hkept
    · next hx =>
      refine List.pairwise_append.2 ⟨hkept, List.pairwise_singleton _ _, fun y hy z hz => ?_⟩
      have hy := List.mem_eraseDups.1 hy
      rw [List.mem_singleton.1 hz, List.idxOf_append_of_mem hy, List.idxOf_append_of_notMem hx]
      exact Nat.lt_add_right _ (List.idxOf_lt_length_of_mem hy)

theorem concat_eq_append_cons_iff {xs before behind : List α} {x y : α} :
    xs ++ [x] = before ++ y :: behind ↔
      xs = before ∧ x = y ∧ behind = [] ∨ ∃ rest, xs = before ++ y :: rest ∧ behind = rest ++ [x] := by
  constructor
  · intro h
    rcases List.eq_nil_or_concat behind with rfl | ⟨rest, z, rfl⟩
    · obtain ⟨hxs, hx⟩ := List.append_inj' h rfl
      exact .inl ⟨hxs, (List.cons.inj hx).1, rfl⟩
    · have h : xs ++ [x] = (before ++ y :: rest) ++ [z] := by simpa using h
      obtain ⟨hxs, hx⟩ := List.append_inj' h rfl
      exact .inr ⟨rest, hxs, by rw [List.concat_eq_append, hx]⟩
  · rintro (⟨rfl, rfl, rfl⟩ | ⟨rest, rfl, rfl⟩)
    · rfl
    · simp

/-- What stands before the first separator, and what stands behind it, is told by the whole. -/
theorem append_cons_inj_of_not_mem {a : α} {xs xs' ys ys' : List α} (h : a ∉ xs) (h' : a ∉ xs')
    (he : xs ++ a :: ys = xs' ++ a :: ys') : xs = xs' ∧ ys = ys' := by
  rcases List.append_eq_append_iff.1 he with ⟨rest, rfl, hrest⟩ | ⟨rest, rfl, hrest⟩
  · cases rest with
    | nil => exact ⟨(List.append_nil xs).symm, List.tail_eq_of_cons_eq hrest⟩
    | cons b bs =>
      obtain rfl := List.head_eq_of_cons_eq hrest
      exact absurd (List.mem_append_right xs List.mem_cons_self) h'
  · cases rest with
    | nil => exact ⟨List.append_nil xs', (List.tail_eq_of_cons_eq hrest).symm⟩
    | cons b bs =>
      obtain rfl := List.head_eq_of_cons_eq hrest
      exact absurd (List.mem_append_right xs' List.mem_cons_self) h

theorem ne_of_nodup_middle {f : α → β} {before after : List α} {x : α}
    (h : ((before ++ x :: after).map f).Nodup) : ∀ y ∈ before ++ after, f y ≠ f x := by
  rw [List.map_append, List.map_cons, List.nodup_middle, ← List.map_append, List.nodup_cons] at h
  exact fun y hy he => h.1 (List.mem_map.2 ⟨y, hy, he⟩)

theorem eq_of_mem_flatMap {f : α → List β} {xs : List α} (h : (xs.flatMap f).Nodup) {x x' : α} (hx : x ∈ xs)
    (hx' : x' ∈ xs) {y : β} (hy : y ∈ f x) (hy' : y ∈ f x') : x = x' := by
  have hdisjoint := (List.nodup_flatMap.1 h).2
  have : Std.Symm (Function.onFun List.Disjoint f) := ⟨fun _ _ hd _ ha hb => hd hb ha⟩
  by_contra hne
  exact hdisjoint.forall hx hx' hne hy hy'

theorem subperm_flatMap (f : α → List β) {xs ys : List α} (h : xs.Subperm ys) :
    (xs.flatMap f).Subperm (ys.flatMap f) := by
  obtain ⟨zs, hperm, hsublist⟩ := h
  exact ⟨zs.flatMap f, hperm.flatMap_right f, hsublist.flatMap f⟩

theorem flatMap_perm_cons {xs : List α} {f g : α → List β} {x : α} {y : β} (hxs : xs.Nodup) (hx : x ∈ xs)
    (hmore : (f x).Perm (y :: g x)) (hother : ∀ x', x' ≠ x → f x' = g x') :
    (xs.flatMap f).Perm (y :: xs.flatMap g) := by
  obtain ⟨before, after, rfl⟩ := List.append_of_mem hx
  obtain ⟨hnot, -⟩ := List.nodup_cons.1 (List.nodup_middle.1 hxs)
  rw [List.mem_append, not_or] at hnot
  have hbefore : before.flatMap f = before.flatMap g :=
    List.flatMap_congr fun x' hx' => hother x' fun heq => hnot.1 (heq ▸ hx')
  have hafter : after.flatMap f = after.flatMap g :=
    List.flatMap_congr fun x' hx' => hother x' fun heq => hnot.2 (heq ▸ hx')
  simp only [List.flatMap_append, List.flatMap_cons, hbefore, hafter]
  exact ((hmore.append_right _).append_left _).trans List.perm_middle

theorem nodup_of_subperm {xs ys : List α} (h : xs.Subperm ys) (hys : ys.Nodup) : xs.Nodup := by
  obtain ⟨zs, hperm, hsublist⟩ := h
  exact hperm.nodup_iff.1 (hys.sublist hsublist)

theorem exists_of_flatMap_eq {f : α → List β} {xs : List α} {before after : List β} {y : β}
    (h : xs.flatMap f = before ++ y :: after) :
    ∃ front x back left right, xs = front ++ x :: back ∧ f x = left ++ y :: right ∧
      before = front.flatMap f ++ left := by
  induction xs generalizing before with
  | nil => simp at h
  | cons x xs ih =>
    rw [List.flatMap_cons] at h
    rcases List.append_eq_append_iff.1 h with ⟨rest, rfl, hrest⟩ | ⟨rest, hx, hrest⟩
    · obtain ⟨front, x', back, left, right, rfl, hx', rfl⟩ := ih hrest
      exact ⟨x :: front, x', back, left, right, rfl, hx', by simp⟩
    · cases rest with
      | nil =>
        rw [List.append_nil] at hx
        have hrest : xs.flatMap f = [] ++ y :: after := hrest.symm
        obtain ⟨front, x', back, left, right, rfl, hx', hleft⟩ := ih hrest
        refine ⟨x :: front, x', back, left, right, rfl, hx', ?_⟩
        rw [List.flatMap_cons, List.append_assoc, ← hleft, List.append_nil, hx]
      | cons z rest =>
        cases hrest
        exact ⟨[], x, xs, before, rest, rfl, hx, rfl⟩

theorem filter_eq_nil_of_perm {p : α → Bool} {xs taken left : List α} (h : xs.Perm (taken ++ left))
    (htaken : taken = xs.filter p) : left.filter p = [] := by
  have hlength := (h.filter p).length_eq
  have hall : taken.filter p = taken := by
    rw [htaken, List.filter_filter]
    simp
  rw [List.filter_append, List.length_append, hall, ← htaken] at hlength
  exact List.length_eq_zero_iff.1 (by omega)

section Keys

variable {κ : Type} [DecidableEq κ] {key : α → κ} {xs ys : List α}

/-- Two lists that agree under every key are rearrangements of each other. -/
theorem perm_of_filter_eq (h : ∀ k, xs.filter (key · = k) = ys.filter (key · = k)) : xs.Perm ys := by
  classical
  refine List.perm_iff_count.2 fun a => ?_
  have hcount := congrArg (List.count a) (h (key a))
  rwa [List.count_filter (by simp), List.count_filter (by simp)] at hcount

/-- A list that begins the other one under every key has no more in it than the other one. -/
theorem subperm_of_filter_prefix (h : ∀ k, xs.filter (key · = k) <+: ys.filter (key · = k)) :
    xs.Subperm ys := by
  classical
  refine List.subperm_ext_iff.2 fun a _ => ?_
  have hcount := (h (key a)).sublist.count_le a
  rwa [List.count_filter (by simp), List.count_filter (by simp)] at hcount

theorem count_map_eq_length_filter (xs : List α) (k : κ) :
    (xs.map key).count k = (xs.filter (key · = k)).length := by
  rw [List.count_eq_countP, List.countP_map, List.countP_eq_length_filter]
  congr 1

theorem pairwise_of_filter {R : α → α → Prop} (h : ∀ k, (xs.filter (key · = k)).Pairwise R) :
    xs.Pairwise fun x y => key x = key y → R x y := by
  induction xs with
  | nil => exact .nil
  | cons x xs ih =>
    refine List.pairwise_cons.2 ⟨fun y hy he => ?_, ih fun k => ?_⟩
    · have hx := h (key x)
      rw [List.filter_cons_of_pos (by simp)] at hx
      exact (List.pairwise_cons.1 hx).1 y (List.mem_filter.2 ⟨hy, by simp [he]⟩)
    · refine (h k).sublist ?_
      exact (List.sublist_cons_self x xs).filter _

theorem pairwise_idxOf_lt [DecidableEq α] (h : ys.Nodup) :
    ys.Pairwise fun x y => ys.idxOf x < ys.idxOf y := by
  refine List.pairwise_iff_getElem.2 fun i j hi hj hij => ?_
  rwa [h.idxOf_getElem, h.idxOf_getElem]

theorem idxOf_lt_of_filter_eq [DecidableEq α]
    (h : ∀ k, xs.filter (key · = k) = ys.filter (key · = k)) (hys : ys.Nodup) :
    xs.Pairwise fun x y => key x = key y → ys.idxOf x < ys.idxOf y := by
  refine pairwise_of_filter fun k => ?_
  rw [h k]
  exact (pairwise_idxOf_lt hys).sublist List.filter_sublist

end Keys

section Lookups

variable {κ : Type} [DecidableEq κ] {xs : List (κ × α)} {k : κ}

theorem forall_bne_fst_iff : (∀ p ∈ xs, (k != p.1) = true) ↔ k ∉ xs.map Prod.fst := by
  simp only [List.mem_map, not_exists, not_and, bne_iff_ne, ne_eq]
  exact ⟨fun h p hp heq => h p hp heq.symm, fun h p hp heq => h p hp heq.symm⟩

theorem lookup_eq_none_iff_not_mem : xs.lookup k = none ↔ k ∉ xs.map Prod.fst := by
  rw [List.lookup_eq_none_iff, forall_bne_fst_iff]

theorem lookup_eq_some_iff_first {x : α} :
    xs.lookup k = some x ↔
      ∃ before after, xs = before ++ (k, x) :: after ∧ k ∉ before.map Prod.fst := by
  simp only [List.lookup_eq_some_iff, forall_bne_fst_iff]

theorem lookup_map_const (key : α → κ) {ys : List α} {y : α} (b : β) (hy : y ∈ ys) :
    (ys.map fun y => (key y, b)).lookup (key y) = some b := by
  induction ys with
  | nil => cases hy
  | cons z zs ih =>
    by_cases hkey : key y = key z
    · simp [hkey]
    · have hy : y ∈ zs := (List.mem_cons.1 hy).resolve_left fun h => hkey (congrArg key h)
      simp [List.lookup_cons, beq_eq_false_iff_ne.2 hkey, ih hy]

end Lookups

section Sorting

variable (key : α → Nat) (xs : List α)

theorem key_le_trans (x y z : α) (hxy : decide (key x ≤ key y) = true) (hyz : decide (key y ≤ key z) = true) :
    decide (key x ≤ key z) = true :=
  decide_eq_true (Nat.le_trans (of_decide_eq_true hxy) (of_decide_eq_true hyz))

theorem key_le_total (x y : α) : (decide (key x ≤ key y) || decide (key y ≤ key x)) = true := by
  simpa using Nat.le_total (key x) (key y)

theorem pairwise_mergeSort_key : (xs.mergeSort fun x y => key x ≤ key y).Pairwise (key · ≤ key ·) :=
  (List.pairwise_mergeSort (key_le_trans key) (key_le_total key) xs).imp of_decide_eq_true

theorem filter_mergeSort_key (k : Nat) :
    (xs.mergeSort fun x y => key x ≤ key y).filter (key · = k) = xs.filter (key · = k) := by
  -- Elements of one key are in order as they are given, and what is in order is left as it is.
  have hsorted : (xs.filter (key · = k)).Pairwise fun x y => decide (key x ≤ key y) = true := by
    refine List.pairwise_of_forall_mem_list fun x hx y hy => decide_eq_true ?_
    have hxk : key x = k := of_decide_eq_true (List.mem_filter.1 hx).2
    have hyk : key y = k := of_decide_eq_true (List.mem_filter.1 hy).2
    exact Nat.le_of_eq (hxk.trans hyk.symm)
  have hkept := (List.sublist_mergeSort (key_le_trans key) (key_le_total key) hsorted
    List.filter_sublist).filter (key · = k)
  simp only [List.filter_filter, Bool.and_self] at hkept
  have hperm := List.mergeSort_perm xs fun x y => key x ≤ key y
  exact (hkept.eq_of_length (hperm.filter _).length_eq.symm).symm

end Sorting

theorem mergeSort_eq_of_perm {key : α → Nat} {xs ys : List α} (h : xs.Perm ys)
    (hys : ys.Pairwise (key · < key ·)) : (xs.mergeSort fun x y => key x ≤ key y) = ys := by
  have hsorted := pairwise_mergeSort_key key xs
  have hperm := (List.mergeSort_perm xs fun x y => key x ≤ key y).trans h
  have hnodup : (ys.map key).Nodup := List.pairwise_map.2 (hys.imp Nat.ne_of_lt)
  refine List.Perm.eq_of_pairwise (fun x y hx hy hxy hyx => ?_) hsorted (hys.imp Nat.le_of_lt) hperm
  exact List.inj_on_of_nodup_map hnodup (hperm.mem_iff.1 hx) hy (Nat.le_antisymm hxy hyx)

theorem zip_flatMap {γ : Type} {gs : List γ} {f : γ → List α} {f' : γ → List β}
    (h : ∀ g ∈ gs, (f g).length = (f' g).length) :
    (gs.flatMap f).zip (gs.flatMap f') = gs.flatMap fun g => (f g).zip (f' g) := by
  induction gs with
  | nil => rfl
  | cons g gs ih =>
    simp only [List.flatMap_cons]
    rw [List.zip_append (h g List.mem_cons_self), ih fun g' hg' => h g' (List.mem_cons_of_mem _ hg')]

theorem flatMap_filter_of_nil {f : α → List β} {p : α → Bool} {xs : List α}
    (h : ∀ x ∈ xs, p x = false → f x = []) : (xs.filter p).flatMap f = xs.flatMap f := by
  induction xs with
  | nil => rfl
  | cons x xs ih =>
    obtain ⟨hx, hxs⟩ := List.forall_mem_cons.1 h
    cases hp : p x with
    | true => rw [List.filter_cons_of_pos hp, List.flatMap_cons, List.flatMap_cons, ih hxs]
    | false => rw [List.filter_cons_of_neg (by simp [hp]), List.flatMap_cons, hx hp, ih hxs, List.nil_append]

section Blocks

variable {γ κ : Type} [DecidableEq κ] {key : α → κ} {k : κ} {block rest : List α}

theorem filter_append_of_block (hblock : ∀ x ∈ block, key x = k) (hrest : ∀ x ∈ rest, key x ≠ k) :
    (block ++ rest).filter (key · = k) = block := by
  rw [List.filter_append, List.filter_eq_self.2 (by simpa using hblock),
    List.filter_eq_nil_iff.2 (by simpa using hrest), List.append_nil]

theorem filter_append_of_other (hblock : ∀ x ∈ block, key x ≠ k) :
    (block ++ rest).filter (key · = k) = rest.filter (key · = k) := by
  rw [List.filter_append, List.filter_eq_nil_iff.2 (by simpa using hblock), List.nil_append]

/-- If the keys of a list come in blocks, the elements under each key are those of its block. -/
theorem flatMap_filter_of_blocks {id : γ → κ} {size : γ → Nat} {gs : List γ} {xs : List α}
    (hids : (gs.map id).Nodup) (h : xs.map key = gs.flatMap fun g => List.replicate (size g) (id g)) :
    (gs.flatMap fun g => xs.filter (key · = id g)) = xs ∧
      ∀ g ∈ gs, (xs.filter (key · = id g)).length = size g := by
  induction gs generalizing xs with
  | nil => simpa using h
  | cons g gs ih =>
    rw [List.flatMap_cons] at h
    obtain ⟨block, rest, rfl, hblock, hrest⟩ := List.map_eq_append_iff.1 h
    rw [List.map_cons, List.nodup_cons] at hids
    obtain ⟨ihrest, ihsize⟩ := ih hids.2 hrest
    have hkey : ∀ x ∈ block, key x = id g := fun x hx =>
      List.eq_of_mem_replicate (hblock ▸ List.mem_map_of_mem hx)
    have hother : ∀ x ∈ rest, key x ∈ gs.map id := by
      intro x hx
      obtain ⟨g', hg', hx'⟩ := List.mem_flatMap.1 (hrest ▸ List.mem_map_of_mem (f := key) hx)
      exact List.mem_map.2 ⟨g', hg', (List.eq_of_mem_replicate hx').symm⟩
    have hown : (block ++ rest).filter (key · = id g) = block :=
      filter_append_of_block hkey fun x hx hxg => hids.1 (hxg ▸ hother x hx)
    have hothers : ∀ g' ∈ gs, (block ++ rest).filter (key · = id g') = rest.filter (key · = id g') := by
      refine fun g' hg' => filter_append_of_other fun x hx hxg => hids.1 ?_
      rw [← hkey x hx, hxg]
      exact List.mem_map_of_mem hg'
    constructor
    · rw [List.flatMap_cons, hown, List.flatMap_congr hothers, ihrest]
    · rw [List.forall_mem_cons, hown]
      refine ⟨?_, fun g' hg' => by rw [hothers g' hg', ihsize g' hg']⟩
      rw [← List.length_map (f := key), hblock, List.length_replicate]

end Blocks

theorem filterMap_map_eq_map {γ : Type} {xs : List α} {f : α → β} {g : β → Option γ} {h : α → γ}
    (hg : ∀ x ∈ xs, g (f x) = some (h x)) : (xs.map f).filterMap g = xs.map h := by
  rw [List.filterMap_map, ← List.filterMap_eq_map]
  exact List.filterMap_congr hg

theorem filterMap_singleton (f : α → Option β) (x : α) : [x].filterMap f = (f x).toList := by
  cases h : f x <;> simp [h]

theorem take_eq_self_of_subset {xs : List α} (h : xs.Nodup) {n : Nat} (hn : xs ⊆ xs.take n) :
    xs.take n = xs :=
  (List.take_sublist n xs).eq_of_length_le (List.Nodup.subperm h hn).length_le

/-- A list whose places begin another's and whose values do so under every key is a beginning of it. -/
theorem prefix_of_filter_prefix {γ κ : Type} [DecidableEq κ] (place : α → β) (value : α → γ) (key : β → κ)
    (inj : ∀ x y, place x = place y → value x = value y → x = y) {xs ys : List α}
    (hplaces : xs.map place <+: ys.map place)
    (hvalues : ∀ k, (xs.filter fun x => key (place x) = k).map value <+:
      (ys.filter fun y => key (place y) = k).map value) : xs <+: ys := by
  induction xs generalizing ys with
  | nil => exact List.nil_prefix
  | cons x xs ih =>
    cases ys with
    | nil => simp at hplaces
    | cons y ys =>
      rw [List.map_cons, List.map_cons, List.cons_prefix_cons] at hplaces
      obtain ⟨hplace, hrest⟩ := hplaces
      have hvalue := hvalues (key (place x))
      rw [List.filter_cons_of_pos (by simp), List.filter_cons_of_pos (by simp [hplace]), List.map_cons,
        List.map_cons, List.cons_prefix_cons] at hvalue
      obtain rfl := inj x y hplace hvalue.1
      refine List.cons_prefix_cons.2 ⟨rfl, ih hrest fun k => ?_⟩
      by_cases hk : key (place x) = k
      · subst hk
        exact hvalue.2
      · have hk' := hvalues k
        rwa [List.filter_cons_of_neg (by simpa using hk), List.filter_cons_of_neg (by simpa using hk)]
          at hk'

/-- If there are always fewer elements before one of a kind than there are of that kind, the elements of
that kind come first. -/
theorem pairwise_of_length_lt_countP {p : α → Bool} {xs : List α}
    (h : ∀ before x after, xs = before ++ x :: after → p x = true → before.length < xs.countP p) :
    xs.Pairwise fun x y => p x = false → p y = false := by
  induction xs using List.reverseRecOn with
  | nil => exact .nil
  | append_singleton xs x ih =>
    have hcount : (xs ++ [x]).countP p = xs.countP p + if p x then 1 else 0 := by
      rw [List.countP_append, List.countP_singleton]
    have hall (hx : p x = true) : ∀ y ∈ xs, p y = true := by
      have hlt := h xs x [] rfl hx
      rw [hcount, if_pos hx] at hlt
      exact List.countP_eq_length.1 (Nat.le_antisymm List.countP_le_length (Nat.lt_succ_iff.1 hlt))
    refine List.pairwise_append.2 ⟨?_, List.pairwise_singleton _ _, fun y hy z hz hyf => ?_⟩
    · by_cases hx : p x = true
      · refine List.pairwise_of_forall_mem_list fun y hy z hz hyf => ?_
        rw [hall hx y hy] at hyf
        cases hyf
      · refine ih fun before y after hxs hy => ?_
        have hlt := h before y (after ++ [x]) (by simp [hxs]) hy
        simpa [hcount, hx] using hlt
    · rw [List.mem_singleton.1 hz]
      by_contra hx
      rw [hall (by simpa using hx) y hy] at hyf
      cases hyf

end FeaturePlan
