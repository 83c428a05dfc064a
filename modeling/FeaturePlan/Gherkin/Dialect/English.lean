import FeaturePlan.Gherkin.Dialect.Basic

/-!
Keywords of English and of its varieties.
-/
namespace FeaturePlan
namespace Gherkin
namespace Dialect

def english : Dialect :=
  { feature := ["Feature", "Business Need", "Ability"], background := ["Background"], rule := ["Rule"],
    scenario := ["Example", "Scenario"], outline := ["Scenario Outline", "Scenario Template"],
    examples := ["Examples", "Scenarios"], context := ["* ", "Given "], action := ["* ", "When "],
    outcome := ["* ", "Then "], and := ["* ", "And "], but := ["* ", "But "] }

def scouse : Dialect :=
  { feature := ["Feature"], background := ["Dis is what went down"], rule := ["Rule"],
    scenario := ["The thing of it is"], outline := ["Wharrimean is"], examples := ["Examples"],
    context := ["* ", "Givun ", "Youse know when youse got "],
    action := ["* ", "Wun ", "Youse know like when "], outcome := ["* ", "Dun ", "Den youse gotta "],
    and := ["* ", "An "], but := ["* ", "Buh "] }

def australian : Dialect :=
  { feature := ["Pretty much"], background := ["First off"], rule := ["Rule"],
    scenario := ["Awww, look mate"], outline := ["Reckon it's like"], examples := ["You'll wanna"],
    context := ["* ", "Y'know "], action := ["* ", "It's just unbelievable "],
    outcome := ["* ", "But at the end of the day I reckon "], and := ["* ", "Too right "],
    but := ["* ", "Yeah nah "] }

def lolcat : Dialect :=
  { feature := ["OH HAI"], background := ["B4"], rule := ["Rule"], scenario := ["MISHUN"],
    outline := ["MISHUN SRSLY"], examples := ["EXAMPLZ"], context := ["* ", "I CAN HAZ "],
    action := ["* ", "WEN "], outcome := ["* ", "DEN "], and := ["* ", "AN "], but := ["* ", "BUT "] }

def oldEnglish : Dialect :=
  { feature := ["Hwaet", "Hwæt"], background := ["Aer", "Ær"], rule := ["Rule"], scenario := ["Swa"],
    outline := ["Swa hwaer swa", "Swa hwær swa"], examples := ["Se the", "Se þe", "Se ðe"],
    context := ["* ", "Thurh ", "Þurh ", "Ðurh "],
    action := ["* ", "Bæþsealf ", "Bæþsealfe ", "Ciric", "Ciricae ", "Ciricum "],
    outcome := ["* ", "Tha ", "Þa ", "Ða ", "Tha the ", "Þa þe ", "Ða ðe "], and := ["* ", "Ond ", "7 "],
    but := ["* ", "Ac "] }

def pirate : Dialect :=
  { feature := ["Ahoy matey!"], background := ["Yo-ho-ho"], rule := ["Rule"], scenario := ["Heave to"],
    outline := ["Shiver me timbers"], examples := ["Dead men tell no tales"],
    context := ["* ", "Gangway! "], action := ["* ", "Blimey! "], outcome := ["* ", "Let go and haul "],
    and := ["* ", "Aye "], but := ["* ", "Avast! "] }

def texan : Dialect :=
  { feature := ["This ain’t my first rodeo", "All gussied up"],
    background := ["Lemme tell y'all a story"], rule := ["Rule "], scenario := ["All hat and no cattle"],
    outline := ["Serious as a snake bite", "Busy as a hound in flea season"],
    examples := ["Now that's a story longer than a cattle drive in July"],
    context := ["Fixin' to ", "All git out "], action := ["Quick out of the chute "],
    outcome := ["There’s no tree but bears some fruit "], and := ["Come hell or high water "],
    but := ["Well now hold on, I'll you what "] }

def englishTags : List (String × Dialect) :=
  [("en", english), ("en-Scouse", scouse), ("en-au", australian), ("en-lol", lolcat),
    ("en-old", oldEnglish), ("en-pirate", pirate), ("en-tx", texan)]

end Dialect
end Gherkin
end FeaturePlan
