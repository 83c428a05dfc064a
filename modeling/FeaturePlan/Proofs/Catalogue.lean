import FeaturePlan.Catalogue
import FeaturePlan.Proofs.Lists

/-!
Looking up keys in a catalogue: what is found under a key when no key occurs twice, and what the values
become when one of them is changed.
-/
namespace FeaturePlan
namespace Catalogue

variable {κ α : Type} [DecidableEq κ]

theorem find?_eq_none_iff {c : Catalogue κ α} {key : κ} : c.find? key = none ↔ key ∉ c.keys := by
  rw [find?, keys, lookup_eq_none_iff_not_mem]

theorem contains_eq_true_iff {c : Catalogue κ α} {key : κ} : c.contains key = true ↔ key ∈ c.keys := by
  rw [contains, Option.isSome_iff_ne_none, Ne, find?_eq_none_iff, not_not]

theorem contains_eq_false_iff {c : Catalogue κ α} {key : κ} :
    c.contains key = false ↔ key ∉ c.keys := by
  rw [← contains_eq_true_iff, Bool.not_eq_true]

theorem find?_eq_some_iff {c : Catalogue κ α} (h : c.keys.Nodup) {key : κ} {value : α} :
    c.find? key = some value ↔ (key, value) ∈ c.entries := by
  obtain ⟨entries⟩ := c
  simp only [find?, keys] at h ⊢
  induction entries with
  | nil => simp
  | cons entry entries ih =>
    obtain ⟨k, v⟩ := entry
    rw [List.map_cons, List.nodup_cons] at h
    by_cases hk : key = k
    · subst hk
      have hn : (key, value) ∉ entries := fun hm => h.1 (List.mem_map.2 ⟨_, hm, rfl⟩)
      simp [hn, eq_comm]
    · simp [List.lookup_cons, beq_eq_false_iff_ne.2 hk, hk, ih h.2]

theorem find?_eq_some_iff_mem {c : Catalogue κ α} {xs : List α} {key : α → κ}
    (hentries : c.entries = xs.map fun x => (key x, x)) (h : c.keys.Nodup) {k : κ} {x : α} :
    c.find? k = some x ↔ x ∈ xs ∧ key x = k := by
  rw [find?_eq_some_iff h, hentries, List.mem_map]
  constructor
  · rintro ⟨y, hy, hyx⟩
    cases hyx
    exact ⟨hy, rfl⟩
  · rintro ⟨hx, rfl⟩
    exact ⟨x, hx, rfl⟩

def Within (c c' : Catalogue κ α) : Prop :=
  ∀ key value, c.find? key = some value → c'.find? key = some value

theorem Within.refl (c : Catalogue κ α) : c.Within c := fun _ _ h => h

theorem Within.trans {c c' c'' : Catalogue κ α} (h : c.Within c') (h' : c'.Within c'') : c.Within c'' :=
  fun key value hvalue => h' key value (h key value hvalue)

theorem within_add (c : Catalogue κ α) (key : κ) (value : α) : c.Within (c.add key value) :=
  fun _ _ h => by rw [find?_add, h, Option.some_or]

theorem find?_add_self {c : Catalogue κ α} {key : κ} (h : key ∉ c.keys) (value : α) :
    (c.add key value).find? key = some value := by
  rw [find?_add, find?_eq_none_iff.2 h, Option.none_or, if_pos rfl]

theorem mem_keys_of_find? {c : Catalogue κ α} {key : κ} {value : α} (h : c.find? key = some value) :
    key ∈ c.keys := by
  by_contra hkey
  rw [find?_eq_none_iff.2 hkey] at h
  cases h

theorem map_find?_keys {c : Catalogue κ α} (h : c.keys.Nodup) :
    c.keys.map c.find? = c.values.map some := by
  simp only [keys, values, List.map_map]
  exact List.map_congr_left fun e he => (find?_eq_some_iff h).2 he

theorem nodup_keys_put {c : Catalogue κ α} (h : c.keys.Nodup) (key : κ) (value : α) :
    (c.put key value).keys.Nodup := by
  unfold put
  split
  · simpa using h
  · next hkey =>
    rw [Bool.not_eq_true, contains_eq_false_iff] at hkey
    rw [keys_add, ← List.concat_eq_append]
    exact h.concat hkey

theorem nodup_keys_foldl_put (pairs : List (κ × α)) :
    (pairs.foldl (fun c pair => c.put pair.1 pair.2) ({} : Catalogue κ α)).keys.Nodup := by
  induction pairs using List.reverseRecOn with
  | nil => exact .nil
  | append_singleton pairs pair ih =>
    rw [List.foldl_concat]
    exact nodup_keys_put ih _ _

theorem find?_foldl_put (pairs : List (κ × α)) (key : κ) :
    (pairs.foldl (fun c pair => c.put pair.1 pair.2) ({} : Catalogue κ α)).find? key =
      pairs.reverse.lookup key := by
  induction pairs using List.reverseRecOn with
  | nil => rfl
  | append_singleton pairs pair ih =>
    rw [List.foldl_concat, find?_put, ih, List.reverse_concat, List.lookup_cons]
    by_cases hkey : key = pair.1
    · simp [hkey]
    · simp [hkey, beq_eq_false_iff_ne.2 hkey]

/-- Every value stands under its own identifier, and none stands there twice. -/
structure Keyed (c : Catalogue κ α) (id : α → κ) : Prop where
  key : ∀ entry ∈ c.entries, id entry.2 = entry.1
  nodup : c.keys.Nodup

theorem mem_entries_modify {c : Catalogue κ α} {key : κ} {f : α → α} {entry : κ × α}
    (h : entry ∈ (c.modify key f).entries) :
    ∃ v, (entry.1, v) ∈ c.entries ∧ (entry.2 = v ∨ entry.1 = key ∧ entry.2 = f v) := by
  obtain ⟨⟨k, v⟩, he, rfl⟩ := List.mem_map.1 h
  by_cases hk : k = key
  · exact ⟨v, by simpa [hk] using he, .inr (by simp [hk])⟩
  · exact ⟨v, by simpa [hk] using he, .inl (by simp [hk])⟩

theorem mem_values_modify {c : Catalogue κ α} {key : κ} {f : α → α} {value : α}
    (h : value ∈ (c.modify key f).values) : ∃ v ∈ c.values, value = v ∨ value = f v := by
  obtain ⟨entry, he, rfl⟩ := List.mem_map.1 h
  obtain ⟨v, hv, hf | ⟨-, hf⟩⟩ := mem_entries_modify he
  · exact ⟨v, List.mem_map_of_mem hv, .inl hf⟩
  · exact ⟨v, List.mem_map_of_mem hv, .inr hf⟩

namespace Keyed

variable {c : Catalogue κ α} {id : α → κ}

omit [DecidableEq κ] in
theorem map_id_values (h : c.Keyed id) : c.values.map id = c.keys := by
  rw [values, keys, List.map_map]
  exact List.map_congr_left h.key

omit [DecidableEq κ] in
theorem mem_keys_iff (h : c.Keyed id) {key : κ} : key ∈ c.keys ↔ ∃ v ∈ c.values, id v = key := by
  rw [← h.map_id_values, List.mem_map]

theorem find?_eq_some_iff (h : c.Keyed id) {key : κ} {value : α} :
    c.find? key = some value ↔ value ∈ c.values ∧ id value = key := by
  rw [Catalogue.find?_eq_some_iff h.nodup, values, List.mem_map]
  constructor
  · exact fun he => ⟨⟨_, he, rfl⟩, h.key _ he⟩
  · rintro ⟨⟨⟨k, v⟩, he, rfl⟩, hid⟩
    have hk : id v = k := h.key _ he
    rwa [← hid, hk]

theorem eq_of_id_eq (h : c.Keyed id) {v v' : α} (hv : v ∈ c.values) (hv' : v' ∈ c.values)
    (hid : id v = id v') : v = v' := by
  have hfind := h.find?_eq_some_iff.2 ⟨hv, hid⟩
  rw [h.find?_eq_some_iff.2 ⟨hv', rfl⟩] at hfind
  exact (Option.some.inj hfind).symm

theorem values_modify (h : c.Keyed id) (key : κ) (f : α → α) :
    (c.modify key f).values = c.values.map fun v => if id v = key then f v else v := by
  simp only [values, modify, List.map_map]
  refine List.map_congr_left fun entry he => ?_
  simp only [Function.comp_apply, h.key entry he]
  split <;> rfl

theorem modify (h : c.Keyed id) (key : κ) {f : α → α} (hid : ∀ v, id (f v) = id v) :
    (c.modify key f).Keyed id where
  key entry he := by
    obtain ⟨v, hv, hf | ⟨-, hf⟩⟩ := mem_entries_modify he
    · rw [hf]
      exact h.key _ hv
    · rw [hf, hid]
      exact h.key _ hv
  nodup := by simpa using h.nodup

omit [DecidableEq κ] in
theorem add (h : c.Keyed id) (value : α) (hvalue : id value ∉ c.keys) :
    (c.add (id value) value).Keyed id where
  key entry he := by
    rcases List.mem_append.1 he with he | he
    · exact h.key entry he
    · rw [List.mem_singleton.1 he]
  nodup := by
    rw [keys_add, ← List.concat_eq_append]
    exact h.nodup.concat hvalue

end Keyed

section Lists

variable {β : Type} {c : Catalogue κ α} {key : κ} {f : α → α} {list : α → List β}

theorem flatMap_modify_of_eq (h : ∀ v, list (f v) = list v) :
    (c.modify key f).values.flatMap list = c.values.flatMap list := by
  simp only [values, modify, List.map_map, List.flatMap_map]
  refine List.flatMap_congr fun entry _ => ?_
  simp only [Function.comp_apply]
  split
  · exact h entry.2
  · rfl

/-- If the change appends to a list of the value, that is one member more in all lists together. -/
theorem flatMap_modify_perm (hkeys : c.keys.Nodup) (hkey : key ∈ c.keys) {x : β}
    (h : ∀ v, list (f v) = list v ++ [x]) :
    ((c.modify key f).values.flatMap list).Perm (c.values.flatMap list ++ [x]) := by
  -- The key stands in one entry only.
  obtain ⟨⟨k, v⟩, hmem, rfl⟩ := List.mem_map.1 hkey
  obtain ⟨before, after, hsplit⟩ := List.append_of_mem hmem
  rw [keys, hsplit, List.map_append, List.map_cons, List.nodup_middle, List.nodup_cons,
    ← List.map_append] at hkeys
  have hother : ∀ e ∈ before ++ after, (if e.1 = k then (e.1, f e.2) else e) = e :=
    fun e he => if_neg fun hk => hkeys.1 (List.mem_map.2 ⟨e, he, hk⟩)
  have hentries : (c.modify k f).entries = before ++ (k, f v) :: after := by
    rw [modify, hsplit, List.map_append, List.map_cons, if_pos rfl,
      List.map_congr_left fun e he => hother e (List.mem_append_left _ he),
      List.map_congr_left fun e he => hother e (List.mem_append_right _ he), List.map_id', List.map_id']
  simp only [values, hentries, hsplit, List.map_append, List.map_cons, List.flatMap_append,
    List.flatMap_cons, h, List.append_assoc]
  exact (((List.perm_append_singleton x _).symm).append_left _).append_left _

end Lists

end Catalogue
end FeaturePlan
