/-!
Sets of characters, as ascending ranges of code points with a gap between neighbours.
-/
namespace FeaturePlan

/-- A set of characters: inclusive ranges of code points, ascending and with a gap between any two.
-/
structure CharSet where
  ranges : List (Nat × Nat)
deriving DecidableEq, Repr, Inhabited

namespace CharSet

def maxCode : Nat := 0x10FFFF

def none : CharSet := ⟨[]⟩
def all : CharSet := ⟨[(0, maxCode)]⟩

/-- Puts ranges in ascending order of their start into the normal form, `lo` and `hi` being the range
that may still grow. -/
def coalesce (lo hi : Nat) : List (Nat × Nat) → List (Nat × Nat)
  | [] => [(lo, hi)]
  | (a, b) :: rest =>
    if a ≤ hi + 1 then coalesce lo (max hi b) rest else (lo, hi) :: coalesce a b rest

def ofAscending : List (Nat × Nat) → CharSet
  | [] => none
  | (lo, hi) :: rest => ⟨coalesce lo hi rest⟩

def ofRanges (ranges : List (Nat × Nat)) : CharSet := ofAscending (ranges.mergeSort fun x y => x.1 ≤ y.1)

def singleton (c : Char) : CharSet := ⟨[(c.toNat, c.toNat)]⟩

def ofList (cs : List Char) : CharSet := ofRanges (cs.map fun c => (c.toNat, c.toNat))

def containsCode (s : CharSet) (n : Nat) : Bool := s.ranges.any fun (lo, hi) => lo ≤ n && n ≤ hi

def contains (s : CharSet) (c : Char) : Bool := s.containsCode c.toNat

def insertRange (r : Nat × Nat) : List (Nat × Nat) → List (Nat × Nat)
  | [] => [r]
  | r' :: rest => if r.1 ≤ r'.1 then r :: r' :: rest else r' :: insertRange r rest

def union (s t : CharSet) : CharSet := ofAscending (s.ranges.foldr insertRange t.ranges)

def gaps (start : Nat) : List (Nat × Nat) → List (Nat × Nat)
  | [] => if start ≤ maxCode then [(start, maxCode)] else []
  | (lo, hi) :: rest => if start < lo then (start, lo - 1) :: gaps (hi + 1) rest else gaps (hi + 1) rest

def compl (s : CharSet) : CharSet := ⟨gaps 0 s.ranges⟩

def inter (s t : CharSet) : CharSet := (s.compl.union t.compl).compl

def diff (s t : CharSet) : CharSet := (s.compl.union t).compl

def symmDiff (s t : CharSet) : CharSet := (s.diff t).union (t.diff s)

def isAscii (s : CharSet) : Bool := s.ranges.all fun (_, hi) => hi < 0x80

def hexValue (c : Char) : Nat := if c.isDigit then c.toNat - 48 else c.toNat - 55

/-- Reads tuples of hexadecimal numbers: spaces stand between tuples, commas and hyphens between the
numbers of one. The tuple and the number that are being read come first, both reversed. -/
def readTuplesFrom (tuple : List Nat) (number : Nat) : List Char → List (List Nat)
  | [] => [(number :: tuple).reverse]
  | c :: cs =>
    if c = ' ' then (number :: tuple).reverse :: readTuplesFrom [] 0 cs
    else if c = ',' || c = '-' then readTuplesFrom (number :: tuple) 0 cs
    else readTuplesFrom tuple (number * 16 + hexValue c) cs

def readTuples (table : List String) : List (List Nat) :=
  table.flatMap fun line => readTuplesFrom [] 0 line.toList

def readRanges (table : List String) : List (Nat × Nat) :=
  (readTuples table).filterMap fun
    | [n] => some (n, n)
    | [lo, hi] => some (lo, hi)
    | _ => Option.none

end CharSet
end FeaturePlan
