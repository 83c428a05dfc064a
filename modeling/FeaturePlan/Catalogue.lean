/-!
Catalogues: values under keys, in the order in which the keys were added.
-/
namespace FeaturePlan

/-- Values under keys, in the order in which the keys were added. -/
structure Catalogue (κ α : Type) where
  entries : List (κ × α) := []
deriving DecidableEq, Repr, Inhabited

namespace Catalogue

variable {κ α : Type}

def keys (c : Catalogue κ α) : List κ := c.entries.map Prod.fst

def values (c : Catalogue κ α) : List α := c.entries.map Prod.snd

def size (c : Catalogue κ α) : Nat := c.entries.length

def add (c : Catalogue κ α) (key : κ) (value : α) : Catalogue κ α :=
  ⟨c.entries ++ [(key, value)]⟩

@[simp] theorem keys_add (c : Catalogue κ α) (key : κ) (value : α) :
    (c.add key value).keys = c.keys ++ [key] := by simp [keys, add]

@[simp] theorem values_add (c : Catalogue κ α) (key : κ) (value : α) :
    (c.add key value).values = c.values ++ [value] := by simp [values, add]

@[simp] theorem size_add (c : Catalogue κ α) (key : κ) (value : α) :
    (c.add key value).size = c.size + 1 := by simp [size, add]

variable [DecidableEq κ]

def find? (c : Catalogue κ α) (key : κ) : Option α := c.entries.lookup key

def contains (c : Catalogue κ α) (key : κ) : Bool := (c.find? key).isSome

def modify (c : Catalogue κ α) (key : κ) (f : α → α) : Catalogue κ α :=
  ⟨c.entries.map fun entry => if entry.1 = key then (entry.1, f entry.2) else entry⟩

def put (c : Catalogue κ α) (key : κ) (value : α) : Catalogue κ α :=
  if c.contains key then c.modify key fun _ => value else c.add key value

theorem find?_add (c : Catalogue κ α) (key key' : κ) (value : α) :
    (c.add key value).find? key' =
      (c.find? key').or (if key' = key then some value else none) := by
  simp only [find?, add, List.lookup_append]
  by_cases h : key' = key
  · simp [h]
  · simp [List.lookup_cons, h, beq_eq_false_iff_ne.2 h]

theorem find?_modify (c : Catalogue κ α) (key key' : κ) (f : α → α) :
    (c.modify key f).find? key' =
      if key' = key then (c.find? key').map f else c.find? key' := by
  obtain ⟨entries⟩ := c
  simp only [find?, modify]
  induction entries with
  | nil => simp
  | cons e es ih =>
    obtain ⟨k, v⟩ := e
    by_cases hk' : key' = k
    · subst hk'
      by_cases hk : key' = key <;> simp [hk]
    · have hb : (key' == k) = false := beq_eq_false_iff_ne.2 hk'
      have hne (b : α) (es : List (κ × α)) : ((k, b) :: es).lookup key' = es.lookup key' := by
        simp only [List.lookup_cons, hb]
      by_cases hk : k = key
      · simpa only [List.map_cons, if_pos hk, hne] using ih
      · simpa only [List.map_cons, if_neg hk, hne] using ih

theorem find?_put (c : Catalogue κ α) (key key' : κ) (value : α) :
    (c.put key value).find? key' = if key' = key then some value else c.find? key' := by
  unfold put
  split
  · next h =>
    obtain ⟨v, hv⟩ := Option.isSome_iff_exists.1 h
    rw [find?_modify]
    split <;> simp_all
  · next h =>
    have hnone : c.find? key = none := by simpa [contains] using h
    rw [find?_add]
    split <;> simp_all

@[simp] theorem keys_modify (c : Catalogue κ α) (key : κ) (f : α → α) :
    (c.modify key f).keys = c.keys := by
  simp only [keys, modify, List.map_map]
  exact List.map_congr_left fun e _ => by simp only [Function.comp]; split <;> rfl

@[simp] theorem size_modify (c : Catalogue κ α) (key : κ) (f : α → α) :
    (c.modify key f).size = c.size := by simp [size, modify]

end Catalogue
end FeaturePlan
