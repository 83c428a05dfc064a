import FeaturePlan.Catalogue

/-!
Queues by key. Each key has a queue of its own, first in, first out; the keys keep the order in which
they were first used, also when their queues run empty.
-/
namespace FeaturePlan

structure Queues (κ α : Type) where
  lanes : Catalogue κ (List α) := {}
deriving DecidableEq, Repr, Inhabited

namespace Queues

variable {κ α : Type} [DecidableEq κ]

/-- The values that wait under a key, the oldest first. -/
def waiting (q : Queues κ α) (key : κ) : List α := (q.lanes.find? key).getD []

def push (q : Queues κ α) (key : κ) (value : α) : Queues κ α :=
  if q.lanes.contains key then ⟨q.lanes.modify key (· ++ [value])⟩
  else ⟨q.lanes.add key [value]⟩

/-- Takes the oldest value of a key. -/
def take (q : Queues κ α) (key : κ) : Option α × Queues κ α :=
  match q.waiting key with
  | [] => (none, q)
  | value :: rest => (some value, ⟨q.lanes.modify key fun _ => rest⟩)

/-- All values that were never taken, key by key. -/
def leftovers (q : Queues κ α) : List α := q.lanes.values.flatten

def size (q : Queues κ α) : Nat := q.lanes.values.foldr (fun lane count => lane.length + count) 0

def isEmpty (q : Queues κ α) : Bool := q.size == 0

def ofList (key : α → κ) (values : List α) : Queues κ α :=
  values.foldl (fun q v => q.push (key v) v) {}

theorem waiting_push (q : Queues κ α) (key key' : κ) (value : α) :
    (q.push key value).waiting key' =
      if key' = key then q.waiting key ++ [value] else q.waiting key' := by
  unfold push
  split
  · next h =>
    simp only [waiting, Catalogue.find?_modify]
    split
    · next h' =>
      subst h'
      obtain ⟨xs, hxs⟩ := Option.isSome_iff_exists.1 h
      simp [hxs]
    · rfl
  · next h =>
    have hnone : q.lanes.find? key = none := by simpa [Catalogue.contains] using h
    simp only [waiting, Catalogue.find?_add]
    by_cases h' : key' = key
    · subst h'
      simp [hnone]
    · simp [h']

theorem take_fst (q : Queues κ α) (key : κ) : (q.take key).1 = (q.waiting key).head? := by
  unfold take
  split <;> simp_all

theorem waiting_take (q : Queues κ α) (key key' : κ) :
    (q.take key).2.waiting key' =
      if key' = key then (q.waiting key).tail else q.waiting key' := by
  unfold take
  split
  · next h => by_cases h' : key' = key <;> simp_all
  · next v rest h =>
    simp only [waiting, Catalogue.find?_modify]
    by_cases h' : key' = key
    · subst h'
      cases hf : q.lanes.find? key' <;> simp_all [waiting]
    · simp [h']

end Queues
end FeaturePlan
