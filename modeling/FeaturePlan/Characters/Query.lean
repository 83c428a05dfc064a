import FeaturePlan.Characters.Property
import FeaturePlan.Characters.Script

/-!
Character classes by name: a binary property, a general category or a script, or one of the latter
two together with the property it is a value of.
-/
namespace FeaturePlan
namespace Characters

/-- A name in lower case without spaces, underscores, hyphens, characters beyond ASCII, and the word
`is` in front. `isc` is kept whole, since it does not abbreviate the category of other characters. -/
def normalizedName (name : String) : String :=
  let cs := name.toList
  let withIs := (cs.take 2).map Char.toLower == ['i', 's']
  let kept := ((if withIs then cs.drop 2 else cs).filter fun c =>
    c != ' ' && c != '_' && c != '-' && c.toNat < 0x80).map Char.toLower
  if withIs && kept == ['c'] then "isc" else String.ofList kept

/-- The characters that a single name stands for. `cf`, `sc` and `lc` are categories although they
abbreviate properties too. -/
def named? (name : String) : Option CharSet :=
  let name := normalizedName name
  if name = "cf" || name = "sc" || name = "lc" then category? name
  else (property? name).orElse fun _ => (category? name).orElse fun _ => script? name

def withValue? (property value : String) : Option CharSet :=
  let value := normalizedName value
  match normalizedName property with
  | "gc" | "generalcategory" => category? value
  | "sc" | "script" => script? value
  | "scx" | "scriptextensions" => scriptExtension? value
  | _ => none

end Characters
end FeaturePlan
