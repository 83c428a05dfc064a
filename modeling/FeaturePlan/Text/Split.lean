/-!
Splitting texts at a mark.
-/
namespace FeaturePlan
namespace Text

def splitAtMark? (mark : List Char) : List Char → Option (List Char × List Char)
  | [] => none
  | c :: cs =>
    if mark.isPrefixOf (c :: cs) then some ([], (c :: cs).drop mark.length)
    else (splitAtMark? mark cs).map fun (before, behind) => (c :: before, behind)

end Text
end FeaturePlan
