/-!
Painted text: lines made of pieces, some of which have a style. A piece is painted by a start sequence
before it and a reset after it, so that painting only ever adds control sequences.
-/
namespace FeaturePlan
namespace Paint

inductive Style where
  | bold
  | green
  | cyan
  | red
deriving DecidableEq, Repr

def escape : Char := '\x1b'

def Style.start : Style → List Char
  | .bold => [escape, '[', '1', 'm']
  | .green => [escape, '[', '3', '2', 'm']
  | .cyan => [escape, '[', '3', '6', 'm']
  | .red => [escape, '[', '3', '1', 'm']

def reset : List Char := [escape, '[', '0', 'm']

structure Piece where
  style : Option Style
  text : String
deriving DecidableEq, Repr

def plain (text : String) : Piece := ⟨none, text⟩

def styled (style : Style) (text : String) : Piece := ⟨some style, text⟩

def Piece.render (painted : Bool) (p : Piece) : String :=
  match p.style with
  | some style =>
    if painted then String.ofList (style.start ++ p.text.toList ++ reset) else p.text
  | none => p.text

def renderLine (painted : Bool) (line : List Piece) : String :=
  String.join (line.map (Piece.render painted))

/-- What is written for lines: one line feed stands between two of them. -/
def renderLines (painted : Bool) (lines : List (List Piece)) : String :=
  "\n".intercalate (lines.map (renderLine painted))

end Paint

/-- Whether output is painted. Where nobody looks at a terminal, `auto` does not paint. -/
inductive Coloring where
  | auto
  | always
  | never
deriving DecidableEq, Repr, Inhabited

namespace Coloring

def label : Coloring → String
  | .auto => "auto"
  | .always => "always"
  | .never => "never"

def all : List Coloring := [.auto, .always, .never]

/-- The colouring with the given label, in any case of ASCII letters. -/
def ofLabel? (text : String) : Option Coloring :=
  all.find? (·.label = String.ofList (text.toList.map Char.toLower))

def faultText : String := "possible options: auto, always, never"

def paints : Coloring → Bool
  | .always => true
  | .auto | .never => false

end Coloring
end FeaturePlan
