import FeaturePlan.Gherkin.Dialect.Basic

/-!
Keywords of languages of South and East Asia.
-/
namespace FeaturePlan
namespace Gherkin
namespace Dialect

def chinese : Dialect :=
  { feature := ["功能"], background := ["背景"], rule := ["Rule", "规则"], scenario := ["场景", "剧本"],
    outline := ["场景大纲", "剧本大纲"], examples := ["例子"], context := ["* ", "假如", "假设", "假定"],
    action := ["* ", "当"], outcome := ["* ", "那么"], and := ["* ", "而且", "并且", "同时"], but := ["* ", "但是"] }

def chineseTraditional : Dialect :=
  { feature := ["功能"], background := ["背景"], rule := ["Rule"], scenario := ["場景", "劇本"],
    outline := ["場景大綱", "劇本大綱"], examples := ["例子"], context := ["* ", "假如", "假設", "假定"],
    action := ["* ", "當"], outcome := ["* ", "那麼"], and := ["* ", "而且", "並且", "同時"], but := ["* ", "但是"] }

def japanese : Dialect :=
  { feature := ["フィーチャ", "機能"], background := ["背景"], rule := ["ルール"], scenario := ["シナリオ"],
    outline := ["シナリオアウトライン", "シナリオテンプレート", "テンプレ", "シナリオテンプレ"], examples := ["例", "サンプル"],
    context := ["* ", "前提"], action := ["* ", "もし"], outcome := ["* ", "ならば"], and := ["* ", "且つ", "かつ"],
    but := ["* ", "然し", "しかし", "但し", "ただし"] }

def korean : Dialect :=
  { feature := ["기능"], background := ["배경"], rule := ["Rule", "규칙"], scenario := ["시나리오"],
    outline := ["시나리오 개요"], examples := ["예"], context := ["* ", "조건", "먼저"],
    action := ["* ", "만일", "만약"], outcome := ["* ", "그러면"], and := ["* ", "그리고"],
    but := ["* ", "하지만", "단"] }

def gujarati : Dialect :=
  { feature := ["લક્ષણ", "વ્યાપાર જરૂર", "ક્ષમતા"], background := ["બેકગ્રાઉન્ડ"], rule := ["Rule"],
    scenario := ["ઉદાહરણ", "સ્થિતિ"], outline := ["પરિદ્દશ્ય રૂપરેખા", "પરિદ્દશ્ય ઢાંચો"],
    examples := ["ઉદાહરણો"], context := ["* ", "આપેલ છે "], action := ["* ", "ક્યારે "],
    outcome := ["* ", "પછી "], and := ["* ", "અને "], but := ["* ", "પણ "] }

def hindi : Dialect :=
  { feature := ["रूप लेख"], background := ["पृष्ठभूमि"], rule := ["नियम"], scenario := ["परिदृश्य"],
    outline := ["परिदृश्य रूपरेखा"], examples := ["उदाहरण"], context := ["* ", "अगर ", "यदि ", "चूंकि "],
    action := ["* ", "जब ", "कदा "], outcome := ["* ", "तब ", "तदा "], and := ["* ", "और ", "तथा "],
    but := ["* ", "पर ", "परन्तु ", "किन्तु "] }

def kannada : Dialect :=
  { feature := ["ಹೆಚ್ಚಳ"], background := ["ಹಿನ್ನೆಲೆ"], rule := ["Rule"],
    scenario := ["ಉದಾಹರಣೆ", "ಕಥಾಸಾರಾಂಶ"], outline := ["ವಿವರಣೆ"], examples := ["ಉದಾಹರಣೆಗಳು"],
    context := ["* ", "ನೀಡಿದ "], action := ["* ", "ಸ್ಥಿತಿಯನ್ನು "], outcome := ["* ", "ನಂತರ "],
    and := ["* ", "ಮತ್ತು "], but := ["* ", "ಆದರೆ "] }

def marathi : Dialect :=
  { feature := ["वैशिष्ट्य", "सुविधा"], background := ["पार्श्वभूमी"], rule := ["नियम"],
    scenario := ["परिदृश्य"], outline := ["परिदृश्य रूपरेखा"], examples := ["उदाहरण"],
    context := ["* ", "जर", "दिलेल्या प्रमाणे "], action := ["* ", "जेव्हा "],
    outcome := ["* ", "मग ", "तेव्हा "], and := ["* ", "आणि ", "तसेच "], but := ["* ", "पण ", "परंतु "] }

def nepali : Dialect :=
  { feature := ["सुविधा", "विशेषता"], background := ["पृष्ठभूमी"], rule := ["नियम"],
    scenario := ["परिदृश्य"], outline := ["परिदृश्य रूपरेखा"], examples := ["उदाहरण", "उदाहरणहरु"],
    context := ["* ", "दिइएको ", "दिएको ", "यदि "], action := ["* ", "जब "],
    outcome := ["* ", "त्यसपछि ", "अनी "], and := ["* ", "र ", "अनी "], but := ["* ", "तर "] }

def panjabi : Dialect :=
  { feature := ["ਖਾਸੀਅਤ", "ਮੁਹਾਂਦਰਾ", "ਨਕਸ਼ ਨੁਹਾਰ"], background := ["ਪਿਛੋਕੜ"], rule := ["Rule"],
    scenario := ["ਉਦਾਹਰਨ", "ਪਟਕਥਾ"], outline := ["ਪਟਕਥਾ ਢਾਂਚਾ", "ਪਟਕਥਾ ਰੂਪ ਰੇਖਾ"],
    examples := ["ਉਦਾਹਰਨਾਂ"], context := ["* ", "ਜੇਕਰ ", "ਜਿਵੇਂ ਕਿ "], action := ["* ", "ਜਦੋਂ "],
    outcome := ["* ", "ਤਦ "], and := ["* ", "ਅਤੇ "], but := ["* ", "ਪਰ "] }

def tamil : Dialect :=
  { feature := ["அம்சம்", "வணிக தேவை", "திறன்"], background := ["பின்னணி"], rule := ["Rule"],
    scenario := ["உதாரணமாக", "காட்சி"], outline := ["காட்சி சுருக்கம்", "காட்சி வார்ப்புரு"],
    examples := ["எடுத்துக்காட்டுகள்", "காட்சிகள்", "நிலைமைகளில்"], context := ["* ", "கொடுக்கப்பட்ட "],
    action := ["* ", "எப்போது "], outcome := ["* ", "அப்பொழுது "], and := ["* ", "மேலும்  ", "மற்றும் "],
    but := ["* ", "ஆனால்  "] }

def telugu : Dialect :=
  { feature := ["గుణము"], background := ["నేపథ్యం"], rule := ["Rule"],
    scenario := ["ఉదాహరణ", "సన్నివేశం"], outline := ["కథనం"], examples := ["ఉదాహరణలు"],
    context := ["* ", "చెప్పబడినది "], action := ["* ", "ఈ పరిస్థితిలో "], outcome := ["* ", "అప్పుడు "],
    and := ["* ", "మరియు "], but := ["* ", "కాని "] }

def thai : Dialect :=
  { feature := ["โครงหลัก", "ความต้องการทางธุรกิจ", "ความสามารถ"], background := ["แนวคิด"],
    rule := ["Rule"], scenario := ["เหตุการณ์"], outline := ["สรุปเหตุการณ์", "โครงสร้างของเหตุการณ์"],
    examples := ["ชุดของตัวอย่าง", "ชุดของเหตุการณ์"], context := ["* ", "กำหนดให้ "],
    action := ["* ", "เมื่อ "], outcome := ["* ", "ดังนั้น "], and := ["* ", "และ "],
    but := ["* ", "แต่ "] }

def asianTags : List (String × Dialect) :=
  [("zh-CN", chinese), ("zh-TW", chineseTraditional), ("ja", japanese), ("ko", korean),
    ("gj", gujarati), ("hi", hindi), ("kn", kannada), ("mr", marathi), ("ne", nepali), ("pa", panjabi),
    ("ta", tamil), ("te", telugu), ("th", thai)]

end Dialect
end Gherkin
end FeaturePlan
