import FeaturePlan.Gherkin.Dialect.Basic

/-!
Keywords of languages in other scripts, and in pictographs.
-/
namespace FeaturePlan
namespace Gherkin
namespace Dialect

def amharic : Dialect :=
  { feature := ["ስራ", "የተፈለገው ስራ", "የሚፈለገው ድርጊት"], background := ["ቅድመ ሁኔታ", "መነሻ", "መነሻ ሀሳብ"],
    rule := ["ህግ"], scenario := ["ምሳሌ", "ሁናቴ"], outline := ["ሁናቴ ዝርዝር", "ሁናቴ አብነት"],
    examples := ["ምሳሌዎች", "ሁናቴዎች"], context := ["* ", "የተሰጠ "], action := ["* ", "መቼ "],
    outcome := ["* ", "ከዚያ "], and := ["* ", "እና "], but := ["* ", "ግን "] }

def arabic : Dialect :=
  { feature := ["خاصية"], background := ["الخلفية"], rule := ["Rule"], scenario := ["مثال", "سيناريو"],
    outline := ["سيناريو مخطط"], examples := ["امثلة"], context := ["* ", "بفرض "],
    action := ["* ", "متى ", "عندما "], outcome := ["* ", "اذاً ", "ثم "], and := ["* ", "و "],
    but := ["* ", "لكن "] }

def armenian : Dialect :=
  { feature := ["Ֆունկցիոնալություն", "Հատկություն"], background := ["Կոնտեքստ"], rule := ["Rule"],
    scenario := ["Օրինակ", "Սցենար"], outline := ["Սցենարի կառուցվացքը"], examples := ["Օրինակներ"],
    context := ["* ", "Դիցուք "], action := ["* ", "Եթե ", "Երբ "], outcome := ["* ", "Ապա "],
    and := ["* ", "Եվ "], but := ["* ", "Բայց "] }

def emoji : Dialect :=
  { feature := ["📚"], background := ["💤"], rule := ["Rule"], scenario := ["🥒", "📕"], outline := ["📖"],
    examples := ["📓"], context := ["* ", "😐"], action := ["* ", "🎬"], outcome := ["* ", "🙏"],
    and := ["* ", "😂"], but := ["* ", "😔"] }

def georgian : Dialect :=
  { feature := ["თვისება", "მოთხოვნა"], background := ["კონტექსტი"], rule := ["წესი"],
    scenario := ["მაგალითად", "მაგალითი", "მაგ", "სცენარი"],
    outline := ["სცენარის ნიმუში", "სცენარის შაბლონი", "ნიმუში", "შაბლონი"], examples := ["მაგალითები"],
    context := ["* ", "მოცემული ", "მოცემულია ", "ვთქვათ "],
    action := ["* ", "როდესაც ", "როცა ", "როგორც კი ", "თუ "], outcome := ["* ", "მაშინ "],
    and := ["* ", "და ", "ასევე "], but := ["* ", "მაგრამ ", "თუმცა "] }

def greek : Dialect :=
  { feature := ["Δυνατότητα", "Λειτουργία"], background := ["Υπόβαθρο"], rule := ["Rule"],
    scenario := ["Παράδειγμα", "Σενάριο"], outline := ["Περιγραφή Σεναρίου", "Περίγραμμα Σεναρίου"],
    examples := ["Παραδείγματα", "Σενάρια"], context := ["* ", "Δεδομένου "], action := ["* ", "Όταν "],
    outcome := ["* ", "Τότε "], and := ["* ", "Και "], but := ["* ", "Αλλά "] }

def hebrew : Dialect :=
  { feature := ["תכונה"], background := ["רקע"], rule := ["כלל"], scenario := ["דוגמא", "תרחיש"],
    outline := ["תבנית תרחיש"], examples := ["דוגמאות"], context := ["* ", "בהינתן "],
    action := ["* ", "כאשר "], outcome := ["* ", "אז ", "אזי "], and := ["* ", "וגם "],
    but := ["* ", "אבל "] }

def persian : Dialect :=
  { feature := ["وِیژگی"], background := ["زمینه"], rule := ["Rule"], scenario := ["مثال", "سناریو"],
    outline := ["الگوی سناریو"], examples := ["نمونه ها"], context := ["* ", "با فرض "],
    action := ["* ", "هنگامی "], outcome := ["* ", "آنگاه "], and := ["* ", "و "], but := ["* ", "اما "] }

def urdu : Dialect :=
  { feature := ["صلاحیت", "کاروبار کی ضرورت", "خصوصیت"], background := ["پس منظر"], rule := ["Rule"],
    scenario := ["منظرنامہ"], outline := ["منظر نامے کا خاکہ"], examples := ["مثالیں"],
    context := ["* ", "اگر ", "بالفرض ", "فرض کیا "], action := ["* ", "جب "],
    outcome := ["* ", "پھر ", "تب "], and := ["* ", "اور "], but := ["* ", "لیکن "] }

def otherScriptTags : List (String × Dialect) :=
  [("amh", amharic), ("ar", arabic), ("am", armenian), ("em", emoji), ("ka", georgian), ("el", greek),
    ("he", hebrew), ("fa", persian), ("ur", urdu)]

end Dialect
end Gherkin
end FeaturePlan
