/-!
Edit distance: the least number of characters to insert, delete or substitute in order to turn one text
into another. The one text is read character by character. A row tells how far what was read is from
everything that the other text begins with, and the next row is written over the row before it.
-/
namespace FeaturePlan
namespace EditDistance

variable {α : Type} [DecidableEq α] {n : Nat}

/-- The distances to the first 0, 1, … `n` characters of a text. -/
abbrev Row (n : Nat) := Vector Nat (n + 1)

/-- Writes the distance to the first `j + 1` characters, where `x` is the last character read. The row
above holds the distances before it was read. -/
def writeCell (x : α) (b : Vector α n) (above : Row n) (j : Nat) (hj : j < n) (row : Row n) : Row n :=
  let substituted := above[j] + if x = b[j] then 0 else 1
  row.set (j + 1) (min (min substituted (above[j + 1] + 1)) (row[j] + 1))

/-- Writes the row after `i` characters and `x` over some other row. -/
def writeRow (i : Nat) (x : α) (b : Vector α n) (above row : Row n) : Row n :=
  n.fold (writeCell x b above) (row.set 0 (i + 1))

structure Rows (n : Nat) where
  /-- The distances from what was read so far. -/
  current : Row n
  /-- The row to be written over. -/
  spare : Row n

namespace Rows

def start (n : Nat) : Rows n := ⟨.range (n + 1), .replicate (n + 1) 0⟩

def read (b : Vector α n) (rows : Rows n) (x : α × Nat) : Rows n :=
  ⟨writeRow x.2 x.1 b rows.current rows.spare, rows.current⟩

end Rows

def distance (a b : List α) : Nat :=
  let b := b.toArray.toVector
  (a.zipIdx.foldl (Rows.read b) (.start b.size)).current[b.size]

/-- The edit distance of two texts, counted in characters. -/
def ofStrings (a b : String) : Nat := distance a.toList b.toList

end EditDistance
end FeaturePlan
