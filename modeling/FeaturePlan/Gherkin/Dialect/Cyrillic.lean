import FeaturePlan.Gherkin.Dialect.Basic

/-!
Keywords of languages in Cyrillic letters.
-/
namespace FeaturePlan
namespace Gherkin
namespace Dialect

def belarusian : Dialect :=
  { feature := ["Функцыянальнасць", "Фіча"], background := ["Кантэкст"], rule := ["Правілы"],
    scenario := ["Сцэнарый", "Cцэнар"], outline := ["Шаблон сцэнарыя", "Узор сцэнара"],
    examples := ["Прыклады"], context := ["* ", "Няхай ", "Дадзена "], action := ["* ", "Калі "],
    outcome := ["* ", "Тады "], and := ["* ", "I ", "Ды ", "Таксама "], but := ["* ", "Але ", "Інакш "] }

def bulgarian : Dialect :=
  { feature := ["Функционалност"], background := ["Предистория"], rule := ["Правило"],
    scenario := ["Пример", "Сценарий"], outline := ["Рамка на сценарий"], examples := ["Примери"],
    context := ["* ", "Дадено "], action := ["* ", "Когато "], outcome := ["* ", "То "],
    and := ["* ", "И "], but := ["* ", "Но "] }

def macedonian : Dialect :=
  { feature := ["Функционалност", "Бизнис потреба", "Можност"], background := ["Контекст", "Содржина"],
    rule := ["Rule"], scenario := ["Пример", "Сценарио", "На пример"],
    outline := ["Преглед на сценарија", "Скица", "Концепт"], examples := ["Примери", "Сценарија"],
    context := ["* ", "Дадено ", "Дадена "], action := ["* ", "Кога "], outcome := ["* ", "Тогаш "],
    and := ["* ", "И "], but := ["* ", "Но "] }

def mongolian : Dialect :=
  { feature := ["Функц", "Функционал"], background := ["Агуулга"], rule := ["Rule"],
    scenario := ["Сценар"], outline := ["Сценарын төлөвлөгөө"], examples := ["Тухайлбал"],
    context := ["* ", "Өгөгдсөн нь ", "Анх "], action := ["* ", "Хэрэв "],
    outcome := ["* ", "Тэгэхэд ", "Үүний дараа "], and := ["* ", "Мөн ", "Тэгээд "],
    but := ["* ", "Гэхдээ ", "Харин "] }

def russian : Dialect :=
  { feature := ["Функция", "Функциональность", "Функционал", "Свойство", "Фича"],
    background := ["Предыстория", "Контекст"], rule := ["Правило"], scenario := ["Пример", "Сценарий"],
    outline := ["Структура сценария", "Шаблон сценария"], examples := ["Примеры"],
    context := ["* ", "Допустим ", "Дано ", "Пусть "], action := ["* ", "Когда ", "Если "],
    outcome := ["* ", "То ", "Затем ", "Тогда "], and := ["* ", "И ", "К тому же ", "Также "],
    but := ["* ", "Но ", "А ", "Иначе "] }

def serbian : Dialect :=
  { feature := ["Функционалност", "Могућност", "Особина"],
    background := ["Контекст", "Основа", "Позадина"], rule := ["Правило"],
    scenario := ["Пример", "Сценарио"], outline := ["Структура сценарија", "Скица", "Концепт"],
    examples := ["Примери", "Сценарији"], context := ["* ", "За дато ", "За дате ", "За дати "],
    action := ["* ", "Када ", "Кад "], outcome := ["* ", "Онда "], and := ["* ", "И "],
    but := ["* ", "Али "] }

def tatar : Dialect :=
  { feature := ["Мөмкинлек", "Үзенчәлеклелек"], background := ["Кереш"], rule := ["Rule"],
    scenario := ["Сценарий"], outline := ["Сценарийның төзелеше"], examples := ["Үрнәкләр", "Мисаллар"],
    context := ["* ", "Әйтик "], action := ["* ", "Әгәр "], outcome := ["* ", "Нәтиҗәдә "],
    and := ["* ", "Һәм ", "Вә "], but := ["* ", "Ләкин ", "Әмма "] }

def ukrainian : Dialect :=
  { feature := ["Функціонал"], background := ["Передумова"], rule := ["Rule"],
    scenario := ["Приклад", "Сценарій"], outline := ["Структура сценарію"], examples := ["Приклади"],
    context := ["* ", "Припустимо ", "Припустимо, що ", "Нехай ", "Дано "],
    action := ["* ", "Якщо ", "Коли "], outcome := ["* ", "То ", "Тоді "],
    and := ["* ", "І ", "А також ", "Та "], but := ["* ", "Але "] }

def uzbek : Dialect :=
  { feature := ["Функционал"], background := ["Тарих"], rule := ["Rule"], scenario := ["Сценарий"],
    outline := ["Сценарий структураси"], examples := ["Мисоллар"], context := ["* ", "Belgilangan "],
    action := ["* ", "Агар "], outcome := ["* ", "Унда "], and := ["* ", "Ва "],
    but := ["* ", "Лекин ", "Бирок ", "Аммо "] }

def cyrillicTags : List (String × Dialect) :=
  [("be", belarusian), ("bg", bulgarian), ("mk-Cyrl", macedonian), ("mn", mongolian), ("ru", russian),
    ("sr-Cyrl", serbian), ("tt", tatar), ("uk", ukrainian), ("uz", uzbek)]

end Dialect
end Gherkin
end FeaturePlan
