import FeaturePlan.Text.Blank

/-!
Indentation of blocks of text. Removing it takes the white space that all lines begin with from every
line.
-/
namespace FeaturePlan
namespace Text

def sharedStart : List Char → List Char → List Char
  | c :: cs, d :: ds => if c = d then c :: sharedStart cs ds else []
  | _, _ => []

theorem sharedStart_prefix_left : ∀ cs ds : List Char, sharedStart cs ds <+: cs
  | [], ds => by simp [sharedStart]
  | c :: cs, [] => by simp [sharedStart]
  | c :: cs, d :: ds => by
    by_cases h : c = d
    · simpa [sharedStart, h] using sharedStart_prefix_left cs ds
    · simp [sharedStart, h]

theorem sharedStart_prefix_right : ∀ cs ds : List Char, sharedStart cs ds <+: ds
  | [], ds => by simp [sharedStart]
  | c :: cs, [] => by simp [sharedStart]
  | c :: cs, d :: ds => by
    by_cases h : c = d
    · simpa [sharedStart, h] using sharedStart_prefix_right cs ds
    · simp [sharedStart, h]

/-- Lines up to each line feed, without a carriage return before it. An unfinished last line counts
unless it is empty. -/
def lines (text : List Char) : List (List Char) :=
  let pieces := text.splitOn '\n'
  let finished := pieces.dropLast.map fun line =>
    if line.getLast? = some '\r' then line.dropLast else line
  match pieces.getLast? with
  | some last => if last.isEmpty then finished else finished ++ [last]
  | none => finished

def isBlankLine (line : List Char) : Bool := line.all isBlank

/-- Cuts an indentation to what a line shares with it. A line that ends within it is left out. -/
def shorten (indentation line : List Char) : List Char :=
  if line.isPrefixOf indentation then indentation else sharedStart indentation line

/-- The indentation of lines: that of the first line with text, cut by those after it. -/
def indentation (block : List (List Char)) : List Char :=
  match block.dropWhile isBlankLine with
  | [] => []
  | line :: others => others.foldl shorten (line.takeWhile isBlank)

def unindent (indentation line : List Char) : List Char :=
  if isBlankLine line then [] else line.drop indentation.length

/-- A block of text without its indentation. It ends with a line feed only if the given text does. -/
def dedent (text : String) : String :=
  let block := lines text.toList
  let result := block.flatMap fun line => unindent (indentation block) line ++ ['\n']
  String.ofList (if text.toList.getLast? = some '\n' then result else result.dropLast)

end Text
end FeaturePlan
