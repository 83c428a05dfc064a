import FeaturePlan.Characters.Folding
import FeaturePlan.Characters.Query
import FeaturePlan.Regex.Matching
import FeaturePlan.Text.Blank
import FeaturePlan.Text.Split

/-!
Reading the written form of a regular expression. A form that breaks a rule stands for no expression:
an unclosed or unopened group or class, a repetition of nothing, a count that is no number or runs
backwards, a range that runs backwards, a group name that is malformed or used twice, an unknown flag,
escape, class or property, whatever looks around or refers back, and what is too large or nested too deep.
-/
namespace FeaturePlan
namespace Regex

structure Flags where
  ignoreCase : Bool := false
  multiLine : Bool := false
  dotAll : Bool := false
  unicode : Bool := true
  crlf : Bool := false
  /-- Blank characters and comments mean nothing. -/
  verbose : Bool := false
deriving DecidableEq, Repr

/-- What is left to read, the flags in force, and the group names used so far. -/
structure ReaderState where
  rest : List Char
  flags : Flags
  names : List String

/-- A step of reading, which may find the form broken. -/
abbrev Reader := StateT ReaderState Option

namespace Reader

def peek : Reader (Option Char) := do return (← get).rest.head?

def flags : Reader Flags := do return (← get).flags

def advance : Reader Unit := modify fun s => { s with rest := s.rest.tail }

def afterComment : List Char → List Char
  | [] => []
  | c :: cs => if c = '\n' then cs else afterComment cs

/-- What follows blank characters and comments. At most `fuel` of them are skipped. -/
def afterVerbose : Nat → List Char → List Char
  | fuel + 1, c :: cs =>
    if Text.isBlank c then afterVerbose fuel cs
    else if c = '#' then afterVerbose fuel (afterComment cs)
    else c :: cs
  | _, cs => cs

def skip : Reader Unit := modify fun s =>
  if s.flags.verbose then { s with rest := afterVerbose s.rest.length s.rest } else s

def advanceSkip : Reader Unit := do advance; skip

def need : Reader Char := do
  match ← peek with
  | some c => return c
  | none => failure

def accept (text : String) : Reader Bool := do
  let s ← get
  if text.toList.isPrefixOf s.rest then
    set { s with rest := s.rest.drop text.length }
    return true
  else return false

def charOf (code : Nat) : Reader Char :=
  if code.isValidChar then return Char.ofNat code else failure

def isHexDigit (c : Char) : Bool :=
  c.isDigit || ('a' ≤ c && c ≤ 'f') || ('A' ≤ c && c ≤ 'F')

def hexUntilBrace : Nat → List Char → Reader (List Char)
  | 0, _ => failure
  | fuel + 1, digits => do
    advanceSkip
    let c ← need
    if c = '}' then return digits
    else if isHexDigit c then hexUntilBrace fuel (digits ++ [c])
    else failure

def hexDigits : Nat → Reader (List Char)
  | 0 => return []
  | n + 1 => do
    let c ← need
    if !isHexDigit c then failure
    advanceSkip
    return c :: (← hexDigits n)

def hexNumber (digits : List Char) : Nat :=
  digits.foldl (fun n c => n * 16 + CharSet.hexValue c.toUpper) 0

/-- Reads the code of an escape by number, from its letter on. Without Unicode a byte beyond ASCII is
no character. -/
def escapedCode (letter : Char) : Reader Char := do
  advanceSkip
  if (← need) = '{' then
    let digits ← hexUntilBrace ((← get).rest.length + 1) []
    advanceSkip
    if digits.isEmpty then failure
    charOf (hexNumber digits)
  else
    let digits ← hexDigits (if letter = 'x' then 2 else if letter = 'u' then 4 else 8)
    let c ← charOf (hexNumber digits)
    if !(← flags).unicode && letter = 'x' && 0x80 ≤ c.toNat then failure
    return c

def untilBrace : Nat → List Char → Reader String
  | 0, _ => failure
  | fuel + 1, name => do
    advanceSkip
    let c ← need
    if c = '}' then
      advance
      return String.ofList name
    else untilBrace fuel (name ++ [c])

def classNamed? (name : String) : Option CharSet :=
  let named (parts : List Char × List Char) :=
    Characters.withValue? (String.ofList parts.1) (String.ofList parts.2)
  match Text.splitAtMark? ['!', '='] name.toList with
  | some parts => (named parts).map CharSet.compl
  | none => match Text.splitAtMark? [':'] name.toList with
    | some parts => named parts
    | none => match Text.splitAtMark? ['='] name.toList with
      | some parts => named parts
      | none => Characters.named? name

def foldCase (set : CharSet) : Reader CharSet := do
  let f ← flags
  if !f.ignoreCase then return set
  else if f.unicode then return set.fold
  else
    let letters := (List.range 26).filterMap fun i =>
      if set.containsCode (65 + i) || set.containsCode (97 + i) then some i else none
    return set.union (.ofRanges (letters.flatMap fun i => [(65 + i, 65 + i), (97 + i, 97 + i)]))

/-- The complement of a set if asked for. Without Unicode it may not leave ASCII. -/
def negateIf (negated : Bool) (set : CharSet) : Reader CharSet := do
  let set := if negated then set.compl else set
  if !(← flags).unicode && !set.isAscii then failure
  return set

def unicodeClass (negated : Bool) : Reader CharSet := do
  advanceSkip
  let c ← need
  let name ←
    if c = '{' then untilBrace ((← get).rest.length + 1) []
    else if c = '\\' then failure
    else do
      advance
      pure c.toString
  if !(← flags).unicode then failure
  match classNamed? name with
  | some set => negateIf negated (← foldCase set)
  | none => failure

def letterClass (letter : Char) : Reader CharSet := do
  let unicode := (← flags).unicode
  let set :=
    if letter.toLower = 'd' then
      if unicode then Characters.decimalDigits else .ofRanges [(0x30, 0x39)]
    else if letter.toLower = 's' then
      if unicode then (Characters.property? "whitespace").getD .none
      else .ofRanges [(0x09, 0x0D), (0x20, 0x20)]
    else if unicode then Characters.wordCharacters
    else .ofRanges [(0x30, 0x39), (0x41, 0x5A), (0x5F, 0x5F), (0x61, 0x7A)]
  negateIf letter.isUpper set

inductive Escape where
  | char (c : Char)
  | set (s : CharSet)
  | place (p : Place)

/-- Reads the word between braces that may follow `\b`; the place is at the opening brace. A brace
that no letter or hyphen follows belongs to a count. -/
def wordPlaceName? : Reader (Option String) := do
  let start ← get
  advanceSkip
  let inName (c : Char) := c.isAlpha || c = '-'
  if !inName (← need) then
    set start
    return none
  let rec name : Nat → List Char → Reader (List Char)
    | 0, _ => failure
    | fuel + 1, cs => do
      let c ← need
      if inName c then
        advanceSkip
        name fuel (cs ++ [c])
      else return cs
  let cs ← name ((← get).rest.length + 1) []
  if (← need) ≠ '}' then failure
  advance
  return some (String.ofList cs)

def isMeta (c : Char) : Bool := "\\.+*?()|[]\x7b\x7d^$#&-~".contains c

def escape : Reader Escape := do
  advance
  let c ← need
  let unicode := (← flags).unicode
  if c.isDigit then failure
  else if c = 'x' || c = 'u' || c = 'U' then return .char (← escapedCode c)
  else if c = 'p' || c = 'P' then return .set (← unicodeClass (c = 'P'))
  else
    advance
    if "dswDSW".contains c then return .set (← letterClass c)
    else if isMeta c then return .char c
    else match c with
      | 'a' => return .char '\x07'
      | 'f' => return .char '\x0c'
      | 't' => return .char '\t'
      | 'n' => return .char '\n'
      | 'r' => return .char '\r'
      | 'v' => return .char '\x0b'
      | 'A' => return .place .textStart
      | 'z' => return .place .textEnd
      | 'B' => return .place (.noWordEdge unicode)
      | '<' => return .place (.wordStart unicode)
      | '>' => return .place (.wordEnd unicode)
      | 'b' =>
        if (← peek) = some '{' then
          match ← wordPlaceName? with
          | none => return .place (.wordEdge unicode)
          | some "start" => return .place (.wordStart unicode)
          | some "end" => return .place (.wordEnd unicode)
          | some "start-half" => return .place (.wordStartHalf unicode)
          | some "end-half" => return .place (.wordEndHalf unicode)
          | some _ => failure
        else return .place (.wordEdge unicode)
      | _ => if c.toNat < 0x80 && !c.isAlphanum then return .char c else failure

def asciiClasses : List (String × List (Nat × Nat)) := [
  ("alnum", [(0x30, 0x39), (0x41, 0x5A), (0x61, 0x7A)]),
  ("alpha", [(0x41, 0x5A), (0x61, 0x7A)]),
  ("ascii", [(0x00, 0x7F)]),
  ("blank", [(0x09, 0x09), (0x20, 0x20)]),
  ("cntrl", [(0x00, 0x1F), (0x7F, 0x7F)]),
  ("digit", [(0x30, 0x39)]),
  ("graph", [(0x21, 0x7E)]),
  ("lower", [(0x61, 0x7A)]),
  ("print", [(0x20, 0x7E)]),
  ("punct", [(0x21, 0x2F), (0x3A, 0x40), (0x5B, 0x60), (0x7B, 0x7E)]),
  ("space", [(0x09, 0x0D), (0x20, 0x20)]),
  ("upper", [(0x41, 0x5A)]),
  ("word", [(0x30, 0x39), (0x41, 0x5A), (0x5F, 0x5F), (0x61, 0x7A)]),
  ("xdigit", [(0x30, 0x39), (0x41, 0x46), (0x61, 0x66)])]

/-- A class such as `[:alpha:]` at the start of a text: whether it is negated, its ranges, and what
follows it. -/
def asciiClassAt? (text : List Char) : Option (Bool × List (Nat × Nat) × List Char) :=
  match text with
  | '[' :: ':' :: cs =>
    let negated := cs.head? = some '^'
    let cs := if negated then cs.tail else cs
    let name := cs.takeWhile (· ≠ ':')
    match cs.dropWhile (· ≠ ':') with
    | ':' :: ']' :: rest => (asciiClasses.lookup (String.ofList name)).map (negated, ·, rest)
    | _ => none
  | _ => none

inductive ClassOp where
  | intersection
  | difference
  | symmetricDifference

def ClassOp.apply : ClassOp → CharSet → CharSet → CharSet
  | .intersection => CharSet.inter
  | .difference => CharSet.diff
  | .symmetricDifference => CharSet.symmDiff

/-- A character of a class as it stands. Without Unicode it has to be ASCII. -/
def classChar (c : Char) : Reader Escape := do
  if !(← flags).unicode && 0x80 ≤ c.toNat then failure
  return .char c

def classPrimitive : Reader Escape := do
  let c ← need
  if c = '\\' then
    match ← escape with
    | .char c => classChar c
    | .set s => return .set s
    | .place _ => failure
  else
    advance
    classChar c

def classItem : Reader CharSet := do
  let first ← classPrimitive
  skip
  let c ← need
  let single : Reader CharSet := match first with
    | .char c => return .singleton c
    | .set s => return s
    | .place _ => failure
  if c ≠ '-' then single
  else
    let before ← get
    advanceSkip
    let next ← peek
    if next = some ']' || next = some '-' then
      set before
      single
    else
      let _ ← need
      match first, ← classPrimitive with
      | .char lo, .char hi => if lo ≤ hi then return ⟨[(lo.toNat, hi.toNat)]⟩ else failure
      | _, _ => failure

/-- Items of a class: the characters of all of them, their number, and how deep they are nested. -/
structure ClassItems where
  set : CharSet := .none
  count : Nat := 0
  depth : Nat := 0

namespace ClassItems

def add (items : ClassItems) (set : CharSet) (depth : Nat := 0) : ClassItems :=
  ⟨items.set.union set, items.count + 1, max items.depth depth⟩

/-- How deep the union of the items is. A single one needs no union. -/
def unionDepth (items : ClassItems) : Nat := if items.count ≤ 1 then items.depth else items.depth + 1

end ClassItems

def combine (before : Option (ClassOp × CharSet × Nat)) (items : ClassItems) : Reader (CharSet × Nat) := do
  let set ← foldCase items.set
  return match before with
    | none => (set, items.unionDepth)
    | some (op, left, depth) => (op.apply left set, max depth items.unionDepth + 1)

/-- Reads hyphens that stand for themselves at the start of a class, and then, if there were none,
a closing bracket that does. -/
def classStart : Nat → ClassItems → Reader ClassItems
  | 0, _ => failure
  | fuel + 1, items => do
    let c ← need
    if c = '-' then
      advanceSkip
      classStart fuel (items.add (.singleton '-'))
    else if c = ']' && items.count = 0 then
      advanceSkip
      let _ ← need
      return items.add (.singleton ']')
    else return items

mutual

def classBody : Nat → Reader (CharSet × Nat)
  | 0 => failure
  | fuel + 1 => do
    advanceSkip
    let negated := (← need) = '^'
    if negated then advanceSkip
    let start ← classStart fuel {}
    let (set, depth) ← classItems fuel none start
    advance
    return (← negateIf negated set, depth + 1)

/-- Reads the items of a class up to its closing bracket, given the last operator with what stands
before it, and the items since. -/
def classItems : Nat → Option (ClassOp × CharSet × Nat) → ClassItems → Reader (CharSet × Nat)
  | 0, _, _ => failure
  | fuel + 1, before, items => do
    skip
    let rest := (← get).rest
    let operator (op : ClassOp) : Reader (CharSet × Nat) := do
      advance
      advance
      classItems fuel (some (op, ← combine before items)) {}
    match rest with
    | '[' :: _ =>
      match asciiClassAt? rest with
      | some (negated, ranges, rest) =>
        modify fun s => { s with rest }
        let item ← negateIf negated (← foldCase (.ofRanges ranges))
        classItems fuel before (items.add item)
      | none =>
        let (item, depth) ← classBody fuel
        classItems fuel before (items.add item depth)
    | ']' :: _ => combine before items
    | '&' :: '&' :: _ => operator .intersection
    | '-' :: '-' :: _ => operator .difference
    | '~' :: '~' :: _ => operator .symmetricDifference
    | _ =>
      let item ← classItem
      classItems fuel before (items.add item)

end

def number : Reader Nat := do
  let dropBlank : Reader Unit := modify fun s => { s with rest := s.rest.dropWhile Text.isBlank }
  let rec digits : Nat → Nat → Bool → Reader (Option Nat)
    | 0, value, found => return if found then some value else none
    | fuel + 1, value, found => do
      match ← peek with
      | some c =>
        if c.isDigit then
          advanceSkip
          digits fuel (value * 10 + (c.toNat - 48)) true
        else return if found then some value else none
      | none => return if found then some value else none
  dropBlank
  let value ← digits ((← get).rest.length) 0 false
  dropBlank
  match value with
  | some n => if n < UInt32.size then return n else failure
  | none => failure

def count : Reader (Nat × Option Nat) := do
  advanceSkip
  let _ ← need
  let least ← number
  let most ←
    if (← need) = ',' then do
      advanceSkip
      if (← need) = '}' then pure none else some <$> number
    else pure (some least)
  if (← need) ≠ '}' then failure
  if most.any (· < least) then failure
  advanceSkip
  return (least, most)

/-- Reads flags up to a colon or a closing parenthesis. The list holds the flags read so far. -/
def flagItems : Nat → List Char → Bool → Bool → Flags → Reader (Flags × Bool)
  | 0, _, _, _, _ => failure
  | fuel + 1, seen, negative, dangling, result => do
    let c ← need
    if c = ':' || c = ')' then
      if dangling then failure
      return (result, seen.isEmpty)
    if seen.contains c then failure
    advance
    let on := !negative
    let next := flagItems fuel (c :: seen)
    match c with
    | '-' => next true true result
    | 'i' => next negative false { result with ignoreCase := on }
    | 'm' => next negative false { result with multiLine := on }
    | 's' => next negative false { result with dotAll := on }
    | 'u' => next negative false { result with unicode := on }
    | 'R' => next negative false { result with crlf := on }
    | 'x' => next negative false { result with verbose := on }
    | 'U' => next negative false result
    | _ => failure

def groupName : Nat → List Char → Reader String
  | 0, _ => failure
  | fuel + 1, name => do
    let c ← need
    if c = '>' then
      advance
      let text := String.ofList name
      let s ← get
      if name.isEmpty || s.names.contains text then failure
      set { s with names := text :: s.names }
      return text
    else
      -- Letters and digits of ASCII are told first, since they need no table.
      let fits := c = '_' ||
        if name.isEmpty then c.isAlpha || Characters.alphabetic.contains c
        else c.isAlphanum || c = '.' || c = '[' || c = ']' || Characters.alphanumeric.contains c
      if !fits then failure
      advance
      groupName fuel (name ++ [c])

def dot : Reader CharSet := do
  let f ← flags
  if !f.unicode then failure
  return if f.dotAll then .all
    else if f.crlf then (CharSet.ofList ['\n', '\r']).compl
    else (CharSet.singleton '\n').compl

def primitive (fuel : Nat) : Reader Reading := do
  let c ← need
  let f ← flags
  let single (regex : Regex) : Reading := { regex }
  let literal (c : Char) : Reader Reading := return single (.chars (← foldCase (.singleton c)))
  match c with
  | '[' =>
    let (set, depth) ← classBody fuel
    return { regex := .chars set, depth }
  | '\\' =>
    match ← escape with
    | .char c => literal c
    | .set s => return single (.chars s)
    | .place p => return single (.at p)
  | _ =>
    advance
    match c with
    | '.' => return single (.chars (← dot))
    | '^' => return single (.at (if f.multiLine then .lineStart f.crlf else .textStart))
    | '$' => return single (.at (if f.multiLine then .lineEnd f.crlf else .textEnd))
    | _ => literal c

mutual

def alternatives : Nat → Reader (List Reading)
  | 0 => failure
  | fuel + 1 => do
    let first ← items fuel [] none
    if (← peek) = some '|' then
      advance
      return first :: (← alternatives fuel)
    else return [first]

/-- Reads items up to the end of an alternative, given the finished ones and the one that may still
be repeated. Flags count as an item. -/
def items : Nat → List Reading → Option Reading → Reader Reading
  | 0, _, _ => failure
  | fuel + 1, done, last => do
    skip
    let finished := done ++ last.toList
    let repeatedBy (least : Nat) (most : Option Nat) : Reader Reading := do
      if (← peek) = some '?' then advance
      match last with
      | some r => items fuel done (some (r.nested (.repeated · least most)))
      | none => failure
    match ← peek with
    | none => return .join sequence finished
    | some '|' => return .join sequence finished
    | some ')' => return .join sequence finished
    | some '?' => do advance; repeatedBy 0 (some 1)
    | some '*' => do advance; repeatedBy 0 none
    | some '+' => do advance; repeatedBy 1 none
    | some '{' => do
      let (least, most) ← count
      repeatedBy least most
    | some '(' =>
      match ← groupOrFlags fuel with
      | some r => items fuel finished (some r)
      | none => items fuel (finished ++ [{ regex := .empty }]) none
    | some _ => do
      let r ← primitive fuel
      items fuel finished (some r)

def groupOrFlags : Nat → Reader (Option Reading)
  | 0 => failure
  | fuel + 1 => do
    advance
    skip
    let outer ← flags
    let body (make : Regex → Regex) : Reader (Option Reading) := do
      let branches ← alternatives fuel
      if (← peek) ≠ some ')' then failure
      advance
      modify fun s => { s with flags := outer }
      return some ((Reading.join anyOf branches).nested make)
    if ← accept "?=" then failure
    else if ← accept "?!" then failure
    else if ← accept "?<=" then failure
    else if ← accept "?<!" then failure
    else if (← accept "?P<") || (← accept "?<") then
      let name ← groupName ((← get).rest.length + 1) []
      body (.group (some name))
    else if ← accept "?" then
      let (inner, bare) ← flagItems ((← get).rest.length + 1) [] false false outer
      let closing ← need
      advance
      modify fun s => { s with flags := inner }
      if closing = ':' then body id
      else if bare then failure
      else return none
    else body (.group none)

end

end Reader

def read? (text : String) : Option Reading := do
  let start : ReaderState := ⟨text.toList, {}, []⟩
  let (branches, left) ← (Reader.alternatives (4 * text.length + 8)).run start
  if left.rest.isEmpty then some { Reading.join anyOf branches with names := left.names } else none

def ofString? (text : String) : Option Regex := do
  let r ← read? text
  if r.isAllowed then some r.regex else none

end Regex
end FeaturePlan
