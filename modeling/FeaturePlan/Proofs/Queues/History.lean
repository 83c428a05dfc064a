import FeaturePlan.Proofs.Queues

/-!
Queues and their history. Whatever is pushed and taken in whatever order, what was taken under a key and
what still waits under it are together what was pushed under it, in that order; and the keys stand in the
order in which they were first pushed. All that queues answer can be told from this.
-/
namespace FeaturePlan
namespace Queues

variable {κ α : Type}

inductive Operation (κ α : Type) where
  | push (key : κ) (value : α)
  | take (key : κ)

/-- What was done with queues: a value was pushed, or one was asked for, and found if there was one. -/
inductive Event (κ α : Type) where
  | pushed (key : κ) (value : α)
  | asked (key : κ) (found : Option α)

namespace Event

def pushed? : Event κ α → Option (κ × α)
  | .pushed key value => some (key, value)
  | .asked _ _ => none

def taken? : Event κ α → Option (κ × α)
  | .pushed _ _ => none
  | .asked key found => found.map (key, ·)

end Event

def pushes (events : List (Event κ α)) : List (κ × α) := events.filterMap Event.pushed?

def takes (events : List (Event κ α)) : List (κ × α) := events.filterMap Event.taken?

section Pushes

variable (events : List (Event κ α)) (key : κ) (value : α)

@[simp] theorem pushes_pushed : pushes (events ++ [.pushed key value]) = pushes events ++ [(key, value)] := by
  simp [pushes, Event.pushed?]

@[simp] theorem pushes_asked (found : Option α) : pushes (events ++ [.asked key found]) = pushes events := by
  simp [pushes, Event.pushed?]

@[simp] theorem takes_pushed : takes (events ++ [.pushed key value]) = takes events := by
  simp [takes, Event.taken?]

@[simp] theorem takes_asked_none : takes (events ++ [.asked key none]) = takes events := by
  simp [takes, Event.taken?]

@[simp] theorem takes_asked_some :
    takes (events ++ [.asked key (some value)]) = takes events ++ [(key, value)] := by
  simp [takes, Event.taken?]

end Pushes

variable [DecidableEq κ]

def under (key : κ) (pairs : List (κ × α)) : List α := (pairs.filter (·.1 = key)).map Prod.snd

@[simp] theorem under_concat (key : κ) (pairs : List (κ × α)) (pair : κ × α) :
    under key (pairs ++ [pair]) = under key pairs ++ if key = pair.1 then [pair.2] else [] := by
  by_cases h : pair.1 = key
  · simp [under, h]
  · simp [under, h, Ne.symm h]

def perform (q : Queues κ α) : Operation κ α → Event κ α × Queues κ α
  | .push key value => (.pushed key value, q.push key value)
  | .take key => (.asked key (q.take key).1, (q.take key).2)

def performAll (operations : List (Operation κ α)) : List (Event κ α) × Queues κ α :=
  operations.foldl (fun done operation =>
    (done.1 ++ [(done.2.perform operation).1], (done.2.perform operation).2)) ([], {})

theorem performAll_concat (operations : List (Operation κ α)) (operation : Operation κ α) :
    performAll (operations ++ [operation]) =
      ((performAll operations).1 ++ [((performAll operations).2.perform operation).1],
        ((performAll operations).2.perform operation).2) := by
  rw [performAll, List.foldl_concat, ← performAll]

section Leftovers

variable {q q' : Queues κ α}

theorem leftovers_push (h : q.lanes.keys.Nodup) (key : κ) (value : α) :
    (q.push key value).leftovers.Perm (value :: q.leftovers) := by
  -- The key stands among those of the queues afterwards, where nothing waited under it if it is new.
  have hnodup : (q.push key value).lanes.keys.Nodup := by
    rw [keys_push]
    split
    · exact h
    · next hkey => exact List.concat_eq_append ▸ h.concat hkey
  have hmem : key ∈ (q.push key value).lanes.keys := by
    rw [keys_push]
    split
    · assumption
    · simp
  have hleft : q.leftovers = (q.push key value).lanes.keys.flatMap q.waiting := by
    rw [leftovers_eq_flatMap h, keys_push]
    split
    · rfl
    · next hkey => simp [waiting_of_not_mem hkey]
  rw [leftovers_eq_flatMap hnodup, hleft]
  refine flatMap_perm_cons hnodup hmem ?_ fun k hk => ?_
  · rw [waiting_push, if_pos rfl]
    exact List.perm_append_singleton value _
  · rw [waiting_push, if_neg hk]

theorem leftovers_take (h : q.lanes.keys.Nodup) {key : κ} {value : α} {rest : List α}
    (hvalue : q.waiting key = value :: rest)
    (hq : ∀ key', q'.waiting key' = if key' = key then rest else q.waiting key')
    (hkeys : q'.lanes.keys = q.lanes.keys) : q.leftovers.Perm (value :: q'.leftovers) := by
  rw [leftovers_eq_flatMap h, leftovers_eq_flatMap (hkeys ▸ h), hkeys]
  have hmem : key ∈ q.lanes.keys := by
    by_contra hkey
    rw [waiting_of_not_mem hkey] at hvalue
    cases hvalue
  refine flatMap_perm_cons h hmem ?_ fun k hk => ?_
  · rw [hq, if_pos rfl, hvalue]
  · rw [hq, if_neg hk]

omit [DecidableEq κ] in
theorem size_eq_length_leftovers (q : Queues κ α) : q.size = q.leftovers.length := by
  rw [size, leftovers]
  induction q.lanes.values with
  | nil => rfl
  | cons lane lanes ih => rw [List.foldr_cons, ih, List.flatten_cons, List.length_append]

end Leftovers

/-- What was done with queues that were empty at first led to these. -/
structure LedTo (events : List (Event κ α)) (q : Queues κ α) : Prop where
  waiting : ∀ key, under key (takes events) ++ q.waiting key = under key (pushes events)
  keys : q.lanes.keys = ((pushes events).map Prod.fst).eraseDups
  conserved : ((takes events).map Prod.snd ++ q.leftovers).Perm ((pushes events).map Prod.snd)
  found : ∀ before key found after, events = before ++ .asked key found :: after →
    (found = none ↔ under key (takes before) = under key (pushes before))

namespace LedTo

variable {events : List (Event κ α)} {q : Queues κ α}

theorem start : LedTo [] ({} : Queues κ α) where
  waiting _ := rfl
  keys := rfl
  conserved := .nil
  found before key found after hsplit := by simp at hsplit

theorem nodup_keys (h : LedTo events q) : q.lanes.keys.Nodup := h.keys ▸ nodup_eraseDups _

theorem waiting_eq_nil_iff (h : LedTo events q) (key : κ) :
    q.waiting key = [] ↔ under key (takes events) = under key (pushes events) := by
  rw [← h.waiting key, List.self_eq_append_right]

theorem found_concat (h : LedTo events q) (event : Event κ α)
    (hevent : ∀ key found, event = .asked key found →
      (found = none ↔ under key (takes events) = under key (pushes events))) :
    ∀ before key found after, events ++ [event] = before ++ .asked key found :: after →
      (found = none ↔ under key (takes before) = under key (pushes before)) := by
  intro before key found after hsplit
  rcases concat_eq_append_cons_iff.1 hsplit with ⟨rfl, hlast, -⟩ | ⟨after, hsplit, -⟩
  · exact hevent key found hlast
  · exact h.found before key found after hsplit

theorem push (h : LedTo events q) (key : κ) (value : α) :
    LedTo (events ++ [.pushed key value]) (q.push key value) where
  waiting key' := by
    rw [takes_pushed, pushes_pushed, under_concat, waiting_push, ← h.waiting key']
    by_cases hkey : key' = key
    · subst hkey
      simp
    · simp [hkey]
  keys := by
    rw [pushes_pushed, keys_push, h.keys, List.map_append, List.map_singleton, eraseDups_concat]
    simp only [List.mem_eraseDups]
  conserved := by
    rw [takes_pushed, pushes_pushed, List.map_append, List.map_singleton]
    have hleft := (leftovers_push h.nodup_keys key value).append_left ((takes events).map Prod.snd)
    have hmore := (h.conserved.cons value).trans (List.perm_append_singleton value _).symm
    exact (hleft.trans List.perm_middle).trans hmore
  found := h.found_concat _ fun _ _ hevent => nomatch hevent

theorem take (h : LedTo events q) (key : κ) :
    LedTo (events ++ [.asked key (q.take key).1]) (q.take key).2 := by
  have hasked : (q.take key).1 = none ↔ under key (takes events) = under key (pushes events) := by
    rw [take_fst, List.head?_eq_none_iff, h.waiting_eq_nil_iff]
  have hfound := h.found_concat (.asked key (q.take key).1) fun key' found hevent => by
    cases hevent
    exact hasked
  rcases q.take_cases key with ⟨hwaiting, htake⟩ | ⟨value, rest, q', hwaiting, htake, hq', hkeys⟩
  · rw [htake] at hfound ⊢
    exact ⟨by simpa using h.waiting, by simpa using h.keys, by simpa using h.conserved, hfound⟩
  · rw [htake] at hfound ⊢
    refine ⟨fun key' => ?_, ?_, ?_, hfound⟩
    · rw [takes_asked_some, pushes_asked, under_concat, hq', ← h.waiting key']
      by_cases hkey : key' = key
      · subst hkey
        simp [hwaiting]
      · simp [hkey]
    · rw [pushes_asked, hkeys, h.keys]
    · rw [takes_asked_some, pushes_asked, List.map_append, List.map_singleton, List.append_assoc]
      have hleft := (leftovers_take h.nodup_keys hwaiting hq' hkeys).symm.append_left
        ((takes events).map Prod.snd)
      exact hleft.trans h.conserved

theorem perform (h : LedTo events q) (operation : Operation κ α) :
    LedTo (events ++ [(q.perform operation).1]) (q.perform operation).2 := by
  cases operation with
  | push key value => exact h.push key value
  | take key => exact h.take key

end LedTo

theorem ledTo_performAll (operations : List (Operation κ α)) :
    LedTo (performAll operations).1 (performAll operations).2 := by
  induction operations using List.reverseRecOn with
  | nil => exact .start
  | append_singleton operations operation ih =>
    rw [performAll_concat]
    exact ih.perform operation

/-- What queues tell of all that was done with them. -/
structure Accounts (events : List (Event κ α)) (q : Queues κ α) : Prop where
  /-- The first value that was taken under a key is the first one that was pushed under it, and so on. -/
  fifo : ∀ key, under key (takes events) <+: under key (pushes events)
  /-- Nothing was found under a key exactly if all its values so far had been taken. -/
  found : ∀ before key found after, events = before ++ .asked key found :: after →
    (found = none ↔ under key (takes before) = under key (pushes before))
  size : q.size + (takes events).length = (pushes events).length
  isEmpty : q.isEmpty = true ↔ (takes events).length = (pushes events).length
  /-- Key by key in the order in which these were first pushed, the values that were not taken. -/
  leftovers : q.leftovers = ((pushes events).map Prod.fst).eraseDups.flatMap fun key =>
    (under key (pushes events)).drop (under key (takes events)).length
  /-- Every value that was pushed was taken or is left over, but not both. -/
  conserved : ((takes events).map Prod.snd ++ q.leftovers).Perm ((pushes events).map Prod.snd)

theorem LedTo.accounts {events : List (Event κ α)} {q : Queues κ α} (h : LedTo events q) :
    Accounts events q := by
  have hsize : q.size + (takes events).length = (pushes events).length := by
    have hlength := h.conserved.length_eq
    rw [List.length_append, List.length_map, List.length_map] at hlength
    rw [size_eq_length_leftovers, Nat.add_comm, hlength]
  refine ⟨fun key => ⟨_, h.waiting key⟩, h.found, hsize, ?_, ?_, h.conserved⟩
  · rw [isEmpty, beq_iff_eq]
    omega
  · rw [leftovers_eq_flatMap h.nodup_keys, h.keys]
    refine List.flatMap_congr fun key _ => ?_
    rw [← h.waiting key, List.drop_left]

/-- Whatever is pushed and taken in whatever order, queues are first in, first out under every key, and what
is left over in the end stands in the order of the keys' first values. -/
theorem performAll_accounts (operations : List (Operation κ α)) :
    Accounts (performAll operations).1 (performAll operations).2 :=
  (ledTo_performAll operations).accounts

/-- A key that runs empty keeps its place. -/
example : (performAll [.push 1 'a', .push 2 'b', .take 1, .push 1 'c']).2.leftovers = ['c', 'b'] := by decide

end Queues
end FeaturePlan
