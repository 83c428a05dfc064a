import FeaturePlan.Gherkin.Dialect.Basic

/-!
Keywords of other languages in Latin letters.
-/
namespace FeaturePlan
namespace Gherkin
namespace Dialect

def afrikaans : Dialect :=
  { feature := ["Funksie", "Besigheid Behoefte", "Vermoë"], background := ["Agtergrond"],
    rule := ["Regel"], scenario := ["Voorbeeld", "Situasie"], outline := ["Situasie Uiteensetting"],
    examples := ["Voorbeelde"], context := ["* ", "Gegewe "], action := ["* ", "Wanneer "],
    outcome := ["* ", "Dan "], and := ["* ", "En "], but := ["* ", "Maar "] }

def aragonese : Dialect :=
  { feature := ["Caracteristica"], background := ["Antecedents"], rule := ["Rule"],
    scenario := ["Eixemplo", "Caso"], outline := ["Esquema del caso"], examples := ["Eixemplos"],
    context := ["* ", "Dau ", "Dada ", "Daus ", "Dadas "], action := ["* ", "Cuan "],
    outcome := ["* ", "Alavez ", "Allora ", "Antonces "], and := ["* ", "Y ", "E "],
    but := ["* ", "Pero "] }

def asturian : Dialect :=
  { feature := ["Carauterística"], background := ["Antecedentes"], rule := ["Rule"],
    scenario := ["Exemplo", "Casu"], outline := ["Esbozu del casu"], examples := ["Exemplos"],
    context := ["* ", "Dáu ", "Dada ", "Daos ", "Daes "], action := ["* ", "Cuando "],
    outcome := ["* ", "Entós "], and := ["* ", "Y ", "Ya "], but := ["* ", "Peru "] }

def azerbaijani : Dialect :=
  { feature := ["Özəllik"], background := ["Keçmiş", "Kontekst"], rule := ["Rule"],
    scenario := ["Nümunə", "Ssenari"], outline := ["Ssenarinin strukturu"], examples := ["Nümunələr"],
    context := ["* ", "Tutaq ki ", "Verilir "], action := ["* ", "Əgər ", "Nə vaxt ki "],
    outcome := ["* ", "O halda "], and := ["* ", "Və ", "Həm "], but := ["* ", "Amma ", "Ancaq "] }

def malay : Dialect :=
  { feature := ["Fungsi"], background := ["Latar Belakang"], rule := ["Rule"],
    scenario := ["Senario", "Situasi", "Keadaan"],
    outline := ["Kerangka Senario", "Kerangka Situasi", "Kerangka Keadaan", "Garis Panduan Senario"],
    examples := ["Contoh"], context := ["* ", "Diberi ", "Bagi "], action := ["* ", "Apabila "],
    outcome := ["* ", "Maka ", "Kemudian "], and := ["* ", "Dan "], but := ["* ", "Tetapi ", "Tapi "] }

def bosnian : Dialect :=
  { feature := ["Karakteristika"], background := ["Pozadina"], rule := ["Rule"],
    scenario := ["Primjer", "Scenariju", "Scenario"], outline := ["Scenariju-obris", "Scenario-outline"],
    examples := ["Primjeri"], context := ["* ", "Dato "], action := ["* ", "Kada "],
    outcome := ["* ", "Zatim "], and := ["* ", "I ", "A "], but := ["* ", "Ali "] }

def catalan : Dialect :=
  { feature := ["Característica", "Funcionalitat"], background := ["Rerefons", "Antecedents"],
    rule := ["Rule"], scenario := ["Exemple", "Escenari"], outline := ["Esquema de l'escenari"],
    examples := ["Exemples"], context := ["* ", "Donat ", "Donada ", "Atès ", "Atesa "],
    action := ["* ", "Quan "], outcome := ["* ", "Aleshores ", "Cal "], and := ["* ", "I "],
    but := ["* ", "Però "] }

def czech : Dialect :=
  { feature := ["Požadavek"], background := ["Pozadí", "Kontext"], rule := ["Pravidlo"],
    scenario := ["Příklad", "Scénář"], outline := ["Náčrt Scénáře", "Osnova scénáře"],
    examples := ["Příklady"], context := ["* ", "Pokud ", "Za předpokladu "], action := ["* ", "Když "],
    outcome := ["* ", "Pak "], and := ["* ", "A také ", "A "], but := ["* ", "Ale "] }

def welsh : Dialect :=
  { feature := ["Arwedd"], background := ["Cefndir"], rule := ["Rule"],
    scenario := ["Enghraifft", "Scenario"], outline := ["Scenario Amlinellol"],
    examples := ["Enghreifftiau"], context := ["* ", "Anrhegedig a "], action := ["* ", "Pryd "],
    outcome := ["* ", "Yna "], and := ["* ", "A "], but := ["* ", "Ond "] }

def danish : Dialect :=
  { feature := ["Egenskab"], background := ["Baggrund"], rule := ["Regel"],
    scenario := ["Eksempel", "Scenarie"], outline := ["Abstrakt Scenario"], examples := ["Eksempler"],
    context := ["* ", "Givet "], action := ["* ", "Når "], outcome := ["* ", "Så "],
    and := ["* ", "Og "], but := ["* ", "Men "] }

def german : Dialect :=
  { feature := ["Funktionalität", "Funktion"],
    background := ["Grundlage", "Hintergrund", "Voraussetzungen", "Vorbedingungen"],
    rule := ["Rule", "Regel"], scenario := ["Beispiel", "Szenario"],
    outline := ["Szenariogrundriss", "Szenarien"], examples := ["Beispiele"],
    context := ["* ", "Angenommen ", "Gegeben sei ", "Gegeben seien "], action := ["* ", "Wenn "],
    outcome := ["* ", "Dann "], and := ["* ", "Und "], but := ["* ", "Aber "] }

def esperanto : Dialect :=
  { feature := ["Trajto"], background := ["Fono"], rule := ["Regulo"],
    scenario := ["Ekzemplo", "Scenaro", "Kazo"],
    outline := ["Konturo de la scenaro", "Skizo", "Kazo-skizo"], examples := ["Ekzemploj"],
    context := ["* ", "Donitaĵo ", "Komence "], action := ["* ", "Se "], outcome := ["* ", "Do "],
    and := ["* ", "Kaj "], but := ["* ", "Sed "] }

def spanish : Dialect :=
  { feature := ["Característica", "Necesidad del negocio", "Requisito"], background := ["Antecedentes"],
    rule := ["Regla", "Regla de negocio"], scenario := ["Ejemplo", "Escenario"],
    outline := ["Esquema del escenario"], examples := ["Ejemplos"],
    context := ["* ", "Dado ", "Dada ", "Dados ", "Dadas "], action := ["* ", "Cuando "],
    outcome := ["* ", "Entonces "], and := ["* ", "Y ", "E "], but := ["* ", "Pero "] }

def estonian : Dialect :=
  { feature := ["Omadus"], background := ["Taust"], rule := ["Reegel"],
    scenario := ["Juhtum", "Stsenaarium"], outline := ["Raamjuhtum", "Raamstsenaarium"],
    examples := ["Juhtumid"], context := ["* ", "Eeldades "], action := ["* ", "Kui "],
    outcome := ["* ", "Siis "], and := ["* ", "Ja "], but := ["* ", "Kuid "] }

def finnish : Dialect :=
  { feature := ["Ominaisuus"], background := ["Tausta"], rule := ["Rule"], scenario := ["Tapaus"],
    outline := ["Tapausaihio"], examples := ["Tapaukset"], context := ["* ", "Oletetaan "],
    action := ["* ", "Kun "], outcome := ["* ", "Niin "], and := ["* ", "Ja "], but := ["* ", "Mutta "] }

def french : Dialect :=
  { feature := ["Fonctionnalité"], background := ["Contexte"], rule := ["Règle"],
    scenario := ["Exemple", "Scénario"], outline := ["Plan du scénario", "Plan du Scénario"],
    examples := ["Exemples"],
    context := ["* ", "Soit ", "Sachant que ", "Sachant qu'", "Sachant ", "Etant donné que ", "Etant donné qu'", "Etant donné ", "Etant donnée ", "Etant donnés ", "Etant données ", "Étant donné que ", "Étant donné qu'", "Étant donné ", "Étant donnée ", "Étant donnés ", "Étant données "],
    action := ["* ", "Quand ", "Lorsque ", "Lorsqu'"], outcome := ["* ", "Alors ", "Donc "],
    and := ["* ", "Et que ", "Et qu'", "Et "], but := ["* ", "Mais que ", "Mais qu'", "Mais "] }

def irish : Dialect :=
  { feature := ["Gné"], background := ["Cúlra"], rule := ["Rule"], scenario := ["Sampla", "Cás"],
    outline := ["Cás Achomair"], examples := ["Samplaí"],
    context := ["* ", "Cuir i gcás go", "Cuir i gcás nach", "Cuir i gcás gur", "Cuir i gcás nár"],
    action := ["* ", "Nuair a", "Nuair nach", "Nuair ba", "Nuair nár"], outcome := ["* ", "Ansin"],
    and := ["* ", "Agus"], but := ["* ", "Ach"] }

def galician : Dialect :=
  { feature := ["Característica"], background := ["Contexto"], rule := ["Rule"],
    scenario := ["Exemplo", "Escenario"], outline := ["Esbozo do escenario"], examples := ["Exemplos"],
    context := ["* ", "Dado ", "Dada ", "Dados ", "Dadas "], action := ["* ", "Cando "],
    outcome := ["* ", "Entón ", "Logo "], and := ["* ", "E "], but := ["* ", "Mais ", "Pero "] }

def croatian : Dialect :=
  { feature := ["Osobina", "Mogućnost", "Mogucnost"], background := ["Pozadina"], rule := ["Rule"],
    scenario := ["Primjer", "Scenarij"], outline := ["Skica", "Koncept"],
    examples := ["Primjeri", "Scenariji"], context := ["* ", "Zadan ", "Zadani ", "Zadano ", "Ukoliko "],
    action := ["* ", "Kada ", "Kad "], outcome := ["* ", "Onda "], and := ["* ", "I "],
    but := ["* ", "Ali "] }

def creole : Dialect :=
  { feature := ["Karakteristik", "Mak", "Fonksyonalite"], background := ["Kontèks", "Istorik"],
    rule := ["Rule"], scenario := ["Senaryo"],
    outline := ["Plan senaryo", "Plan Senaryo", "Senaryo deskripsyon", "Senaryo Deskripsyon", "Dyagram senaryo", "Dyagram Senaryo"],
    examples := ["Egzanp"], context := ["* ", "Sipoze ", "Sipoze ke ", "Sipoze Ke "],
    action := ["* ", "Lè ", "Le "], outcome := ["* ", "Lè sa a ", "Le sa a "],
    and := ["* ", "Ak ", "Epi ", "E "], but := ["* ", "Men "] }

def hungarian : Dialect :=
  { feature := ["Jellemző"], background := ["Háttér"], rule := ["Szabály"],
    scenario := ["Példa", "Forgatókönyv"], outline := ["Forgatókönyv vázlat"], examples := ["Példák"],
    context := ["* ", "Amennyiben ", "Adott "], action := ["* ", "Majd ", "Ha ", "Amikor "],
    outcome := ["* ", "Akkor "], and := ["* ", "És "], but := ["* ", "De "] }

def indonesian : Dialect :=
  { feature := ["Fitur"], background := ["Dasar", "Latar Belakang"], rule := ["Rule", "Aturan"],
    scenario := ["Skenario"], outline := ["Skenario konsep", "Garis-Besar Skenario"],
    examples := ["Contoh", "Misal"],
    context := ["* ", "Dengan ", "Diketahui ", "Diasumsikan ", "Bila ", "Jika "],
    action := ["* ", "Ketika "], outcome := ["* ", "Maka ", "Kemudian "], and := ["* ", "Dan "],
    but := ["* ", "Tapi ", "Tetapi "] }

def icelandic : Dialect :=
  { feature := ["Eiginleiki"], background := ["Bakgrunnur"], rule := ["Rule"],
    scenario := ["Atburðarás"], outline := ["Lýsing Atburðarásar", "Lýsing Dæma"],
    examples := ["Dæmi", "Atburðarásir"], context := ["* ", "Ef "], action := ["* ", "Þegar "],
    outcome := ["* ", "Þá "], and := ["* ", "Og "], but := ["* ", "En "] }

def italian : Dialect :=
  { feature := ["Funzionalità", "Esigenza di Business", "Abilità"], background := ["Contesto"],
    rule := ["Regola"], scenario := ["Esempio", "Scenario"], outline := ["Schema dello scenario"],
    examples := ["Esempi"], context := ["* ", "Dato ", "Data ", "Dati ", "Date "],
    action := ["* ", "Quando "], outcome := ["* ", "Allora "], and := ["* ", "E ", "Ed "],
    but := ["* ", "Ma "] }

def javanese : Dialect :=
  { feature := ["Fitur"], background := ["Dasar"], rule := ["Rule"], scenario := ["Skenario"],
    outline := ["Konsep skenario"], examples := ["Conto", "Contone"],
    context := ["* ", "Nalika ", "Nalikaning "], action := ["* ", "Manawa ", "Menawa "],
    outcome := ["* ", "Njuk ", "Banjur "], and := ["* ", "Lan "],
    but := ["* ", "Tapi ", "Nanging ", "Ananging "] }

def lithuanian : Dialect :=
  { feature := ["Savybė"], background := ["Kontekstas"], rule := ["Rule"],
    scenario := ["Pavyzdys", "Scenarijus"], outline := ["Scenarijaus šablonas"],
    examples := ["Pavyzdžiai", "Scenarijai", "Variantai"], context := ["* ", "Duota "],
    action := ["* ", "Kai "], outcome := ["* ", "Tada "], and := ["* ", "Ir "], but := ["* ", "Bet "] }

def luxembourgish : Dialect :=
  { feature := ["Funktionalitéit"], background := ["Hannergrond"], rule := ["Rule"],
    scenario := ["Beispill", "Szenario"], outline := ["Plang vum Szenario"], examples := ["Beispiller"],
    context := ["* ", "ugeholl "], action := ["* ", "wann "], outcome := ["* ", "dann "],
    and := ["* ", "an ", "a "], but := ["* ", "awer ", "mä "] }

def latvian : Dialect :=
  { feature := ["Funkcionalitāte", "Fīča"], background := ["Konteksts", "Situācija"], rule := ["Rule"],
    scenario := ["Piemērs", "Scenārijs"], outline := ["Scenārijs pēc parauga"],
    examples := ["Piemēri", "Paraugs"], context := ["* ", "Kad "], action := ["* ", "Ja "],
    outcome := ["* ", "Tad "], and := ["* ", "Un "], but := ["* ", "Bet "] }

def macedonianLatin : Dialect :=
  { feature := ["Funkcionalnost", "Biznis potreba", "Mozhnost"], background := ["Kontekst", "Sodrzhina"],
    rule := ["Rule"], scenario := ["Scenario", "Na primer"],
    outline := ["Pregled na scenarija", "Skica", "Koncept"], examples := ["Primeri", "Scenaria"],
    context := ["* ", "Dadeno ", "Dadena "], action := ["* ", "Koga "], outcome := ["* ", "Togash "],
    and := ["* ", "I "], but := ["* ", "No "] }

def dutch : Dialect :=
  { feature := ["Functionaliteit"], background := ["Achtergrond"], rule := ["Regel"],
    scenario := ["Voorbeeld", "Scenario"], outline := ["Abstract Scenario"], examples := ["Voorbeelden"],
    context := ["* ", "Gegeven ", "Stel "], action := ["* ", "Als ", "Wanneer "],
    outcome := ["* ", "Dan "], and := ["* ", "En "], but := ["* ", "Maar "] }

def norwegian : Dialect :=
  { feature := ["Egenskap"], background := ["Bakgrunn"], rule := ["Regel"],
    scenario := ["Eksempel", "Scenario"], outline := ["Scenariomal", "Abstrakt Scenario"],
    examples := ["Eksempler"], context := ["* ", "Gitt "], action := ["* ", "Når "],
    outcome := ["* ", "Så "], and := ["* ", "Og "], but := ["* ", "Men "] }

def polish : Dialect :=
  { feature := ["Właściwość", "Funkcja", "Aspekt", "Potrzeba biznesowa"], background := ["Założenia"],
    rule := ["Zasada", "Reguła"], scenario := ["Przykład", "Scenariusz"],
    outline := ["Szablon scenariusza"], examples := ["Przykłady"],
    context := ["* ", "Zakładając ", "Mając ", "Zakładając, że "],
    action := ["* ", "Jeżeli ", "Jeśli ", "Gdy ", "Kiedy "], outcome := ["* ", "Wtedy "],
    and := ["* ", "Oraz ", "I "], but := ["* ", "Ale "] }

def portuguese : Dialect :=
  { feature := ["Funcionalidade", "Característica", "Caracteristica"],
    background := ["Contexto", "Cenário de Fundo", "Cenario de Fundo", "Fundo"], rule := ["Regra"],
    scenario := ["Exemplo", "Cenário", "Cenario"],
    outline := ["Esquema do Cenário", "Esquema do Cenario", "Delineação do Cenário", "Delineacao do Cenario"],
    examples := ["Exemplos", "Cenários", "Cenarios"],
    context := ["* ", "Dado ", "Dada ", "Dados ", "Dadas "], action := ["* ", "Quando "],
    outcome := ["* ", "Então ", "Entao "], and := ["* ", "E "], but := ["* ", "Mas "] }

def romanian : Dialect :=
  { feature := ["Functionalitate", "Funcționalitate", "Funcţionalitate"], background := ["Context"],
    rule := ["Rule"], scenario := ["Exemplu", "Scenariu"],
    outline := ["Structura scenariu", "Structură scenariu"], examples := ["Exemple"],
    context := ["* ", "Date fiind ", "Dat fiind ", "Dată fiind", "Dati fiind ", "Dați fiind ", "Daţi fiind "],
    action := ["* ", "Cand ", "Când "], outcome := ["* ", "Atunci "], and := ["* ", "Si ", "Și ", "Şi "],
    but := ["* ", "Dar "] }

def slovak : Dialect :=
  { feature := ["Požiadavka", "Funkcia", "Vlastnosť"], background := ["Pozadie"], rule := ["Pravidlo"],
    scenario := ["Príklad", "Scenár"], outline := ["Náčrt Scenáru", "Náčrt Scenára", "Osnova Scenára"],
    examples := ["Príklady"], context := ["* ", "Pokiaľ ", "Za predpokladu "],
    action := ["* ", "Keď ", "Ak "], outcome := ["* ", "Tak ", "Potom "],
    and := ["* ", "A ", "A tiež ", "A taktiež ", "A zároveň "], but := ["* ", "Ale "] }

def slovene : Dialect :=
  { feature := ["Funkcionalnost", "Funkcija", "Možnosti", "Moznosti", "Lastnost", "Značilnost"],
    background := ["Kontekst", "Osnova", "Ozadje"], rule := ["Pravilo"],
    scenario := ["Primer", "Scenarij"],
    outline := ["Struktura scenarija", "Skica", "Koncept", "Oris scenarija", "Osnutek"],
    examples := ["Primeri", "Scenariji"], context := ["Dano ", "Podano ", "Zaradi ", "Privzeto "],
    action := ["Ko ", "Ce ", "Če ", "Kadar "], outcome := ["Nato ", "Potem ", "Takrat "],
    and := ["In ", "Ter "], but := ["Toda ", "Ampak ", "Vendar "] }

def serbianLatin : Dialect :=
  { feature := ["Funkcionalnost", "Mogućnost", "Mogucnost", "Osobina"],
    background := ["Kontekst", "Osnova", "Pozadina"], rule := ["Pravilo"],
    scenario := ["Scenario", "Primer"], outline := ["Struktura scenarija", "Skica", "Koncept"],
    examples := ["Primeri", "Scenariji"], context := ["* ", "Za dato ", "Za date ", "Za dati "],
    action := ["* ", "Kada ", "Kad "], outcome := ["* ", "Onda "], and := ["* ", "I "],
    but := ["* ", "Ali "] }

def swedish : Dialect :=
  { feature := ["Egenskap"], background := ["Bakgrund"], rule := ["Regel"], scenario := ["Scenario"],
    outline := ["Abstrakt Scenario", "Scenariomall"], examples := ["Exempel"],
    context := ["* ", "Givet "], action := ["* ", "När "], outcome := ["* ", "Så "],
    and := ["* ", "Och "], but := ["* ", "Men "] }

def klingon : Dialect :=
  { feature := ["Qap", "Qu'meH 'ut", "perbogh", "poQbogh malja'", "laH"], background := ["mo'"],
    rule := ["Rule"], scenario := ["lut"], outline := ["lut chovnatlh"],
    examples := ["ghantoH", "lutmey"], context := ["* ", "ghu' noblu' ", "DaH ghu' bejlu' "],
    action := ["* ", "qaSDI' "], outcome := ["* ", "vaj "], and := ["* ", "'ej ", "latlh "],
    but := ["* ", "'ach ", "'a "] }

def turkish : Dialect :=
  { feature := ["Özellik"], background := ["Geçmiş"], rule := ["Kural"],
    scenario := ["Örnek", "Senaryo"], outline := ["Senaryo taslağı"], examples := ["Örnekler"],
    context := ["* ", "Diyelim ki "], action := ["* ", "Eğer ki "], outcome := ["* ", "O zaman "],
    and := ["* ", "Ve "], but := ["* ", "Fakat ", "Ama "] }

def vietnamese : Dialect :=
  { feature := ["Tính năng"], background := ["Bối cảnh"], rule := ["Rule"],
    scenario := ["Tình huống", "Kịch bản"], outline := ["Khung tình huống", "Khung kịch bản"],
    examples := ["Dữ liệu"], context := ["* ", "Biết ", "Cho "], action := ["* ", "Khi "],
    outcome := ["* ", "Thì "], and := ["* ", "Và "], but := ["* ", "Nhưng "] }

def latinTags : List (String × Dialect) :=
  [("af", afrikaans), ("an", aragonese), ("ast", asturian), ("az", azerbaijani), ("bm", malay),
    ("bs", bosnian), ("ca", catalan), ("cs", czech), ("cy-GB", welsh), ("da", danish), ("de", german),
    ("eo", esperanto), ("es", spanish), ("et", estonian), ("fi", finnish), ("fr", french), ("ga", irish),
    ("gl", galician), ("hr", croatian), ("ht", creole), ("hu", hungarian), ("id", indonesian),
    ("is", icelandic), ("it", italian), ("jv", javanese), ("lt", lithuanian), ("lu", luxembourgish),
    ("lv", latvian), ("mk-Latn", macedonianLatin), ("nl", dutch), ("no", norwegian), ("pl", polish),
    ("pt", portuguese), ("ro", romanian), ("sk", slovak), ("sl", slovene), ("sr-Latn", serbianLatin),
    ("sv", swedish), ("tlh", klingon), ("tr", turkish), ("vi", vietnamese)]

end Dialect
end Gherkin
end FeaturePlan
