import FeaturePlan.Pattern.Parameters
import FeaturePlan.Pattern.PhraseReader

/-!
Patterns of step definitions: phrases, which match a whole text, and regular expressions, which match
anywhere in it. A phrase is compiled with the parameter types of the moment.
-/
namespace FeaturePlan

/-- A pattern as it is written. A regular expression is kept in its read form too. -/
inductive Pattern where
  | phrase (source : String)
  | regex (source : String) (expression : Regex)
deriving DecidableEq, Repr, Inhabited

/-- Why a pattern has no compiled form. -/
inductive PatternFault where
  | brokenPhrase (failure : Phrase.Failure)
  | unknownParameter (name : String)
  /-- What the phrase becomes with the expressions of its parameters is refused. -/
  | brokenExpansion (phrase : String) (parameters : List String)
  | brokenRegex (source : String)
deriving DecidableEq, Repr

def PatternFault.message : PatternFault → Reason
  | .brokenPhrase failure => .said ("Parsing failed: " ++ failure.message)
  | .unknownParameter name => .said ("Failed to expand regex: Parameter `" ++ name ++ "` not found.")
  | .brokenExpansion phrase parameters => .refused "Regex creation failed: " (.expansion phrase parameters)
  | .brokenRegex source => .refused "" (.expression source)

namespace Phrase

def Part.regex : Part → Regex
  | .text chars => .literal chars
  | .optional chars => .optional (.literal chars)

/-- What becomes of an item: an expression of its own, or that of a parameter as it is written. -/
inductive Piece where
  | literal (regex : Regex)
  | parameter (source : String)

def Item.expand (params : Parameters) : Item → Except PatternFault Piece
  | .alternation alternatives =>
    .ok (.literal (.anyOf (alternatives.map fun ps => .sequence (ps.map Part.regex))))
  | .optional chars => .ok (.literal (.optional (.literal chars)))
  | .parameter name =>
    match params.source? name with
    | none => .error (.unknownParameter name)
    | some source => .ok (.parameter source)
  | .text chars => .ok (.literal (.literal chars))
  | .spaces count => .ok (.literal (.literal (List.replicate count ' ')))

namespace Piece

def source? : Piece → Option String
  | .literal _ => none
  | .parameter source => some source

/-- The piece as a part of a larger expression. That of a parameter is put into a group as it is written, so it
has to end what it begins. If it has groups they get new names first, but those under a repetition keep theirs. -/
def reading? : Piece → Option Regex.Reading
  | .literal regex => some { regex }
  | .parameter source => do
    let r ← Regex.read? source
    if r.regex.hasGroups then some { r.nested id with names := r.regex.repeatedNames }
    else Regex.read? ("(" ++ source ++ ")")

end Piece

/-- The expression of the pieces, from the start of a text to its end. -/
def ofPieces? (pieces : List Piece) : Option Regex := do
  let readings ← pieces.mapM Piece.reading?
  let whole : Regex.Reading :=
    .join .sequence ({ regex := .at .textStart } :: readings ++ [{ regex := .at .textEnd }])
  if whole.names.Nodup ∧ whole.isAllowed then some whole.regex else none

def compile (source : String) (params : Parameters) : Except PatternFault Regex := do
  let items ← (read source).mapError .brokenPhrase
  let pieces ← items.mapM (Item.expand params)
  match ofPieces? pieces with
  | some r => return r
  | none => .error (.brokenExpansion source (pieces.filterMap Piece.source?))

end Phrase

namespace Pattern

def ofRegex? (source : String) : Option Pattern :=
  (Regex.ofString? source).map (.regex source)

def source : Pattern → String
  | .phrase source => source
  | .regex source _ => source

def isPhrase : Pattern → Bool
  | .phrase _ => true
  | .regex .. => false

def compile (p : Pattern) (params : Parameters) : Except PatternFault Regex :=
  match p with
  | .phrase source => Phrase.compile source params
  | .regex _ expression => .ok expression

end Pattern
end FeaturePlan
