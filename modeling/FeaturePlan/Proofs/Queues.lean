import FeaturePlan.Plan.Queues
import FeaturePlan.Proofs.Catalogue
import Mathlib.Data.List.Induction

/-!
Queues that are filled from a list. Under every key the values of that key wait in their order, the keys
stand in the order of their first values, and what is left over is read key by key.
-/
namespace FeaturePlan
namespace Queues

variable {κ α : Type} [DecidableEq κ]

theorem ofList_concat (key : α → κ) (values : List α) (value : α) :
    ofList key (values ++ [value]) = (ofList key values).push (key value) value := by
  simp [ofList]

theorem waiting_ofList (key : α → κ) (values : List α) (k : κ) :
    (ofList key values).waiting k = values.filter (key · = k) := by
  induction values using List.reverseRecOn with
  | nil => rfl
  | append_singleton values value ih =>
    rw [ofList_concat, waiting_push, List.filter_append]
    by_cases h : k = key value
    · subst h
      simp [ih]
    · simp [h, Ne.symm h, ih]

theorem keys_push (q : Queues κ α) (key : κ) (value : α) :
    (q.push key value).lanes.keys =
      if key ∈ q.lanes.keys then q.lanes.keys else q.lanes.keys ++ [key] := by
  unfold push
  by_cases h : key ∈ q.lanes.keys
  · simp [h, Catalogue.contains_eq_true_iff.2 h]
  · simp [h, Catalogue.contains_eq_false_iff.2 h]

/-- The keys stand in the order in which values first came under them. -/
theorem keys_ofList (key : α → κ) (values : List α) :
    (ofList key values).lanes.keys = (values.map key).eraseDups := by
  induction values using List.reverseRecOn with
  | nil => rfl
  | append_singleton values value ih =>
    rw [ofList_concat, keys_push, ih, List.map_append, List.map_singleton, eraseDups_concat]
    simp only [List.mem_eraseDups]

@[simp] theorem keys_take (q : Queues κ α) (key : κ) : (q.take key).2.lanes.keys = q.lanes.keys := by
  unfold take
  split <;> simp

theorem take_cases (q : Queues κ α) (key : κ) :
    (q.waiting key = [] ∧ q.take key = (none, q)) ∨
      ∃ value rest q', q.waiting key = value :: rest ∧ q.take key = (some value, q') ∧
        (∀ key', q'.waiting key' = if key' = key then rest else q.waiting key') ∧
        q'.lanes.keys = q.lanes.keys := by
  have hwaiting := q.waiting_take key
  have hkeys := q.keys_take key
  cases hw : q.waiting key with
  | nil =>
    refine .inl ⟨rfl, ?_⟩
    rw [take, hw]
  | cons value rest =>
    refine .inr ⟨value, rest, (q.take key).2, rfl, ?_, fun key' => ?_, hkeys⟩
    · rw [take, hw]
    · rw [hwaiting key', hw, List.tail_cons]

theorem leftovers_eq_flatMap {q : Queues κ α} (h : q.lanes.keys.Nodup) :
    q.leftovers = q.lanes.keys.flatMap q.waiting := by
  have hw : q.lanes.keys.map q.waiting = q.lanes.values := by
    have hm := congrArg (List.map (Option.getD · [])) (Catalogue.map_find?_keys h)
    simp only [List.map_map, Function.comp_def, Option.getD_some, List.map_id'] at hm
    exact hm
  rw [leftovers, List.flatMap_def, hw]

theorem waiting_subset_leftovers (q : Queues κ α) (key : κ) : q.waiting key ⊆ q.leftovers := by
  rw [waiting]
  cases hlane : q.lanes.find? key with
  | none => exact List.nil_subset _
  | some lane =>
    obtain ⟨before, after, hsplit, -⟩ := lookup_eq_some_iff_first.1 hlane
    have hmem : lane ∈ q.lanes.values := by
      rw [Catalogue.values, hsplit]
      simp
    exact fun v hv => List.mem_flatten.2 ⟨lane, hmem, hv⟩

theorem waiting_of_not_mem {q : Queues κ α} {key : κ} (h : key ∉ q.lanes.keys) : q.waiting key = [] := by
  rw [waiting, Catalogue.find?_eq_none_iff.2 h, Option.getD_none]

theorem filter_leftovers {q : Queues κ α} {key : α → κ} (hnodup : q.lanes.keys.Nodup)
    (hkey : ∀ k, ∀ v ∈ q.waiting k, key v = k) (k : κ) : q.leftovers.filter (key · = k) = q.waiting k := by
  have hlanes : ∀ ks : List κ, ks.Nodup →
      (ks.flatMap q.waiting).filter (key · = k) = if k ∈ ks then q.waiting k else [] := by
    intro ks hks
    induction ks with
    | nil => rfl
    | cons k' ks ih =>
      obtain ⟨hk', hks⟩ := List.nodup_cons.1 hks
      rw [List.flatMap_cons, List.filter_append, ih hks]
      by_cases h : k = k'
      · subst h
        have hself : (q.waiting k).filter (key · = k) = q.waiting k :=
          List.filter_eq_self.2 fun v hv => by simpa using hkey k v hv
        rw [hself, if_neg hk', if_pos List.mem_cons_self, List.append_nil]
      · have hother : (q.waiting k').filter (key · = k) = [] :=
          List.filter_eq_nil_iff.2 fun v hv => by simpa [hkey k' v hv] using Ne.symm h
        simp only [hother, List.nil_append, List.mem_cons, h, false_or]
  rw [leftovers_eq_flatMap hnodup, hlanes _ hnodup]
  split
  · rfl
  · next hk => exact (waiting_of_not_mem hk).symm

end Queues
end FeaturePlan
