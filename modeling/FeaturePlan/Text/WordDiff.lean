import FeaturePlan.Text.Blank

/-!
Differences between two lists of words. The script of changes keeps a longest common subsequence,
and wherever a removal and an addition are both open to it, it removes first.
-/
namespace FeaturePlan
namespace WordDiff

/-- A word present on both sides, on the old side only, or on the new side only. -/
inductive Change (α : Type) where
  | kept (word : α)
  | removed (word : α)
  | added (word : α)
deriving DecidableEq, Repr

namespace Change

variable {α : Type}

def isKept : Change α → Bool
  | .kept _ => true
  | .removed _ | .added _ => false

def removed? : Change α → Option α
  | .removed w => some w
  | .kept _ | .added _ => none

def added? : Change α → Option α
  | .added w => some w
  | .kept _ | .removed _ => none

end Change

variable {α : Type} [DecidableEq α] {m n : Nat}

/-- What is known of some old words and all that the new ones end with, the whole first: the length of a
longest common subsequence. -/
abbrev Row (n : Nat) := Vector Nat (n + 1)

/-- A row for all that the old words end with, the whole first. -/
abbrev Table (m n : Nat) := Vector (Row n) (m + 1)

/-- Writes a cell, where `x` is the first of the old words and the row below leaves it out. -/
def writeCell (x : α) (new : Vector α n) (below : Row n) (j : Nat) (hj : j < n) (row : Row n) : Row n :=
  have hcell : j < n + 1 := Nat.lt_succ_of_lt hj
  have hnext : j + 1 < n + 1 := Nat.succ_lt_succ hj
  row.set j (if x = new[j] then below[j + 1] + 1 else max below[j] row[j + 1])

/-- Writes the row of the old words from the place `i` on, from its end to its beginning. -/
def writeRow (old : Vector α m) (new : Vector α n) (i : Nat) (hi : i < m) (t : Table m n) : Table m n :=
  have hrow : i < m + 1 := Nat.lt_succ_of_lt hi
  have hnext : i + 1 < m + 1 := Nat.succ_lt_succ hi
  t.set i (n.foldRev (writeCell old[i] new t[i + 1]) t[i])

def table (old : Vector α m) (new : Vector α n) : Table m n :=
  m.foldRev (writeRow old new) (.replicate (m + 1) (.replicate (n + 1) 0))

/-- The changes from the place `i` of the old words and the place `j` of the new ones on. -/
def walk (old : Vector α m) (new : Vector α n) (t : Table m n) (i j : Nat) : List (Change α) :=
  if h : i < m ∧ j < n then
    if old[i] = new[j] then .kept old[i] :: walk old new t (i + 1) (j + 1)
    else if t[i][j + 1] ≤ t[i + 1][j] then .removed old[i] :: walk old new t (i + 1) j
    else .added new[j] :: walk old new t i (j + 1)
  else (old.toList.drop i).map .removed ++ (new.toList.drop j).map .added
termination_by (m - i) + (n - j)

def changes (old new : List α) : List (Change α) :=
  let old := old.toArray.toVector
  let new := new.toArray.toVector
  walk old new (table old new) 0 0

def ofTexts (old new : String) : List (Change String) := changes (Text.words old) (Text.words new)

end WordDiff
end FeaturePlan
