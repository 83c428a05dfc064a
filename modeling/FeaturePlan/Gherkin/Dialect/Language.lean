import FeaturePlan.Gherkin.Dialect.English
import FeaturePlan.Gherkin.Dialect.Latin
import FeaturePlan.Gherkin.Dialect.Cyrillic
import FeaturePlan.Gherkin.Dialect.Asian
import FeaturePlan.Gherkin.Dialect.OtherScripts

/-!
The languages that a document can be written in, by their tags.
-/
namespace FeaturePlan
namespace Gherkin
namespace Dialect

def byTag : List (String × Dialect) :=
  englishTags ++ latinTags ++ cyrillicTags ++ asianTags ++ otherScriptTags

def ofTag? (tag : String) : Option Dialect := byTag.lookup tag

end Dialect
end Gherkin
end FeaturePlan
