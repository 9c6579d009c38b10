import CivicReport.Question
import CivicReport.Pattern
import CivicReport.Intent.Action

/-! The shape of report that a question asks for. -/
namespace CivicReport

namespace Shape

open Pattern

/-- A trigger for an action, and a pattern that takes it back. -/
structure Rule where
  action : Action
  trigger : Pattern Unit
  veto : Option (Pattern Unit) := none

def Rule.applies (r : Rule) (folded : List Char) : Bool :=
  r.trigger.occurs folded && !(r.veto.any (·.occurs folded))

/-- Words that stand alone. -/
def alone (p : Pattern Unit) : Pattern Unit := chain [afterBlank, p, beforeBlank]

def count : Rule where
  action := .count
  trigger := oneOf
    [alone (oneOf
      [text "כמה", text "ספירת", text "ספירה",
       chain [text "מספר", someBlanks, text "ה", run (fun c => !Text.isBlank c) 1 none,
         anyText ["ימ", "ות"]]]),
     chain [text "how", someBlanks, text "many"], word "count"]

/-- The word for a sum is vetoed where it names the amount that a comparison is about. -/
def sum : Rule where
  action := .sum
  trigger := oneOf [alone (anyText ["סכומ", "סכומי", "סהכ", "סכ"]), word "total", word "sum"]
  veto := some <| chain [afterBlank, text "סכומ", someBlanks, maybe (seq (text "של") someBlanks),
    anyText ["מעל", "מתחת", "יותר", "פחות", "עד", "גבוה", "נמוכ"]]

def average : Rule where
  action := .average
  trigger := oneOf [text "ממוצע", text "average", word "avg", word "mean"]

def group : Rule where
  action := .group
  trigger := oneOf
    [alone (anyText ["לפי", "פילוח", "מקובצ", "מקובצימ", "בחלוקה"]),
     chain [text "group", someBlanks, text "by"], word "per", word "by"]

/-- In order of preference. -/
def rules : List Rule := [count, sum, average, group]

/-- The action of the first rule that applies, and a list when none does. -/
def action (q : Question) : Action :=
  ((rules.find? (·.applies q.folded)).map (·.action)).getD .list

end Shape

end CivicReport
