import FeaturePlan.Pattern.Phrase

/-!
Reading phrases. At each place an alternation is tried first, then an optional, a parameter, a run of
text and a run of spaces; a fault found on the way is final.
-/
namespace FeaturePlan
namespace Phrase

/-- The characters that a backslash makes stand for themselves. -/
def isReserved (c : Char) : Bool :=
  c = '{' || c = '}' || c = '(' || c = ')' || c = '\\' || c = '/' || c = ' '

def isPlain (c : Char) : Bool := !(c = ' ' || c = '(' || c = '{' || c = '\\' || c = '/')

def isPlainInOptional (c : Char) : Bool :=
  !(c = '(' || c = ')' || c = '{' || c = '\\' || c = '/')

def isPlainInParameter (c : Char) : Bool :=
  !(c = '{' || c = '}' || c = '(' || c = '\\' || c = '/')

/-- Reads a run of plain and escaped characters that begins at `start`. -/
def run (plain : Char → Bool) (start : List Char) : List Char → Except Failure (List Char × List Char)
  | [] => .ok ([], [])
  | '\\' :: [] =>
    .error (if start = ['\\'] then ⟨.escapedEnd, start⟩ else ⟨.escapedNonReserved, start.take 2⟩)
  | '\\' :: d :: cs =>
    if isReserved d then (run plain start cs).map fun (text, rest) => (d :: text, rest)
    else .error ⟨.escapedNonReserved, ['\\', d]⟩
  | c :: cs =>
    if plain c then (run plain start cs).map fun (text, rest) => (c :: text, rest)
    else .ok ([], c :: cs)

def runAt (plain : Char → Bool) (text : List Char) : Except Failure (List Char × List Char) := run plain text text

/-- The part of a text that was read when `rest` is left. -/
def readPart (text rest : List Char) : List Char := text.take (text.length - rest.length)

def closes (plain : Char → Bool) (closing : Char) (text : List Char) : Bool :=
  match runAt plain text with
  | .ok (_, c :: _) => c = closing
  | _ => false

mutual

def readOptional : Nat → List Char → Except Failure (List Char × List Char)
  | fuel + 1, '(' :: body => do
    let (text, rest) ← runAt isPlainInOptional body
    match rest with
    | ')' :: rest => if text.isEmpty then .error ⟨.emptyOptional, ['(', ')']⟩ else .ok (text, rest)
    | '(' :: _ =>
      match readOptional fuel rest with
      | .ok (_, after) =>
        if closes isPlainInOptional ')' after then .error ⟨.nestedOptional, readPart rest after⟩
        else .error ⟨.unescapedReserved, ['(']⟩
      | .error _ => .error ⟨.unescapedReserved, ['(']⟩
    | '{' :: _ =>
      match readParameter fuel rest with
      | .ok (_, after) => .error ⟨.parameterInOptional, readPart rest after⟩
      | .error _ => .error ⟨.unescapedReserved, ['{']⟩
    | '/' :: _ => .error ⟨.alternationInOptional, ['/']⟩
    | c :: _ => .error ⟨.unescapedReserved, [c]⟩
    | [] => .error ⟨.unfinishedOptional, ['(']⟩
  | _, text => .error ⟨.unfinishedOptional, text.take 1⟩

/-- Reads a parameter, from its opening brace on. Its name is kept as it is written. -/
def readParameter : Nat → List Char → Except Failure (String × List Char)
  | fuel + 1, '{' :: body => do
    let (_, rest) ← runAt isPlainInParameter body
    match rest with
    | '}' :: after => .ok (String.ofList (readPart body rest), after)
    | '{' :: _ =>
      match readParameter fuel rest with
      | .ok (_, after) =>
        if closes isPlainInParameter '}' after then .error ⟨.nestedParameter, readPart rest after⟩
        else .error ⟨.unescapedReserved, ['{']⟩
      | .error _ => .error ⟨.unescapedReserved, ['{']⟩
    | '(' :: _ =>
      match readOptional fuel rest with
      | .ok (_, after) => .error ⟨.optionalInParameter, readPart rest after⟩
      | .error _ => .error ⟨.unescapedReserved, ['(']⟩
    | c :: _ => .error ⟨.unescapedReserved, [c]⟩
    | [] => .error ⟨.unfinishedParameter, ['{']⟩
  | _, text => .error ⟨.unfinishedParameter, text.take 1⟩

end

def readParts : Nat → List Char → Except Failure (List Part × List Char)
  | 0, text => .ok ([], text)
  | fuel + 1, text => do
    if text.head? = some '(' then
      let (chars, rest) ← readOptional text.length text
      let (parts, rest) ← readParts fuel rest
      return (.optional chars :: parts, rest)
    else
      let (chars, rest) ← runAt isPlain text
      if chars.isEmpty then return ([], text)
      let (parts, rest) ← readParts fuel rest
      return (.text chars :: parts, rest)

/-- Reads alternatives between slashes, as many as are not empty. -/
def readAlternatives : Nat → List Char → Except Failure (List (List Part) × List Char)
  | 0, text => .ok ([], text)
  | fuel + 1, text => do
    let (parts, rest) ← readParts text.length text
    if parts.isEmpty then return ([], text)
    match rest with
    | '/' :: after =>
      let (others, left) ← readAlternatives fuel after
      return if others.isEmpty then ([parts], rest) else (parts :: others, left)
    | _ => return ([parts], rest)

def readAlternation? (text : List Char) :
    Except Failure (Option (List (List Part) × List Char)) := do
  let (alternatives, rest) ← readAlternatives text.length text
  if rest.head? = some '/' then .error ⟨.emptyAlternation, ['/']⟩
  else if alternatives.length ≤ 1 then return none
  else if alternatives.any (·.all Part.isOptional) then
    .error ⟨.onlyOptionalInAlternation, readPart text rest⟩
  else return some (alternatives, rest)

def readItem (text : List Char) : Except Failure (Item × List Char) := do
  if let some (alternatives, rest) ← readAlternation? text then
    return (.alternation alternatives, rest)
  match text.head? with
  | some '(' => (readOptional text.length text).map fun (chars, rest) => (.optional chars, rest)
  | some '{' => (readParameter text.length text).map fun (name, rest) => (.parameter name, rest)
  | some ' ' =>
    let rest := text.dropWhile (· = ' ')
    return (.spaces (text.length - rest.length), rest)
  | _ => (runAt isPlain text).map fun (chars, rest) => (.text chars, rest)

/-- Reads items to the end. Each takes at least one of the `fuel` characters. -/
def readItems : Nat → List Char → Except Failure (List Item)
  | _, [] => .ok []
  | 0, _ => .ok []
  | fuel + 1, text => do
    let (item, rest) ← readItem text
    return item :: (← readItems fuel rest)

def read (source : String) : Except Failure (List Item) :=
  readItems source.length source.toList

end Phrase
end FeaturePlan
