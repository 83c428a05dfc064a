/-!
White space and words. A text is read as the list of its words, and its canonical form joins them
with single spaces: two texts have one canonical form exactly when they differ in white space only.
-/
namespace FeaturePlan
namespace Text

/-- The characters of the property White_Space. -/
def isBlank (c : Char) : Bool :=
  let n := c.toNat
  (0x09 ≤ n && n ≤ 0x0D) || n == 0x20 || n == 0x85 || n == 0xA0 || n == 0x1680 ||
    (0x2000 ≤ n && n ≤ 0x200A) || n == 0x2028 || n == 0x2029 || n == 0x202F || n == 0x205F ||
    n == 0x3000

/-- The maximal runs of characters that are not blank, in order. -/
def splitBlank : List Char → List (List Char)
  | [] => []
  | c :: cs =>
    if isBlank c then splitBlank cs
    else match cs with
      | [] => [[c]]
      | d :: _ => if isBlank d then [c] :: splitBlank cs else (splitBlank cs).modifyHead (c :: ·)

@[simp] theorem splitBlank_nil : splitBlank [] = [] := rfl

theorem splitBlank_of_blank {c : Char} (h : isBlank c = true) (cs : List Char) :
    splitBlank (c :: cs) = splitBlank cs := by simp [splitBlank, h]

def words (s : String) : List String := (splitBlank s.toList).map String.ofList

def unwords (ws : List String) : String := " ".intercalate ws

/-- The words of a text with one space between neighbours and none at the ends. -/
def canonical (s : String) : String := unwords (words s)

def trimLeft (s : String) : String := String.ofList (s.toList.dropWhile isBlank)

def trimRight (s : String) : String :=
  String.ofList ((s.toList.reverse.dropWhile isBlank).reverse)

def trim (s : String) : String := trimRight (trimLeft s)

end Text
end FeaturePlan
