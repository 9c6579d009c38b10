import CivicReport.Question.Vocabulary
import CivicReport.Pattern
import CivicReport.Registry.Domain
import CivicReport.Intent.Filters

/-!
Filters found in a question. Each rule finds at most one; a domain takes those whose key it
accepts. All patterns are matched against folded text.
-/
namespace CivicReport

/-- The parts of a pattern that the rules look at. -/
inductive Part where
  | number
  | above
  | below
  | unit
  deriving Repr, DecidableEq

namespace Extraction

open Pattern

/-- "No." in front of a number. -/
def numberMark : Pattern Part :=
  maybe (chain [text "מס", maybe (text "פר"), maybe (text "."), blanks])

def isDigitOrComma (c : Char) : Bool := Text.isDigit c || c == ','

def projectWords : List String := ["תבר", "פרויקט", "פרוייקט", "project"]

/-- A word for a project and the number after it. -/
def projectNumber : Pattern Part :=
  chain [anyText projectWords, nonBlanks, blanks, numberMark, maybe (text "#"),
    group .number (seq (digits 1 (some 1)) (run isDigitOrComma 0 none))]

def yearWords : List String :=
  ["שנת", "בשנת", "לשנת", "משנת", "שנה", "year", "in", "ב", "ל"]

def centuries : List String := ["19", "20"]

/-- A word for a year and a year of the last or this century. -/
def yearNumber : Pattern Part :=
  chain [afterBlank, anyText yearWords, blanks,
    group .number (seq (anyText centuries) (digits 2 (some 2))),
    either (.class (!isDigitOrComma ·)) finish]

/-- What a comparison is said with: a word, or a word and another one behind blanks, which may be
missing or have to be there. -/
inductive Wording where
  | word (s : String)
  | attached (first second : String)
  | apart (first second : String)
  deriving Repr, DecidableEq

def Wording.pattern : Wording → Pattern Part
  | word s => text s
  | attached first second => chain [text first, blanks, text second]
  | apart first second => chain [text first, someBlanks, text second]

def aboveWordings : List Wording :=
  [.word "מעל", .attached "יותר" "מ", .attached "גבוה" "מ", .attached "גדול" "מ", .word "לפחות",
   .word "מינימומ", .word "above", .word "over", .apart "more" "than", .apart "greater" "than"]

def belowWordings : List Wording :=
  [.word "מתחת", .attached "פחות" "מ", .attached "נמוכ" "מ", .attached "קטנ" "מ", .word "עד",
   .word "מקסימומ", .word "below", .word "under", .apart "less" "than"]

def aboveWords : Pattern Part := oneOf (aboveWordings.map Wording.pattern)

def belowWords : Pattern Part := oneOf (belowWordings.map Wording.pattern)

/-- Letters that may stand between a comparison and its number. -/
def amountLetters : List String := ["ל", "מ"]

def unitNames : List String :=
  ["אלפימ", "אלפ", "מיליארד", "מיליונ", "מליונ", "thousand", "million"]

/-- Units that are a letter, which has to stand alone. -/
def unitLetters : List String := ["k", "m"]

def unitWords : Pattern Part :=
  oneOf (unitNames.map text ++ unitLetters.map fun s => seq (text s) wordEdge)

/-- A comparison with an amount: its direction, the number, and a unit. -/
def amountBound : Pattern Part :=
  chain [afterBlank, either (group .above aboveWords) (group .below belowWords), blanks,
    maybe (anyText amountLetters), blanks,
    group .number (chain [digits 1 (some 1), run isDigitOrComma 0 none,
      maybe (seq (text ".") (digits 1 none))]),
    maybe (seq blanks (group .unit unitWords))]

def orderWords : List String := ["הזמנה", "הזמנת", "order"]

/-- A word for an order and a number of four to ten digits. -/
def orderNumber : Pattern Part :=
  chain [anyText orderWords, nonBlanks, blanks, maybe (seq (text "רכש") blanks), numberMark,
    maybe (text "#"), blanks, group .number (digits 4 (some 10)),
    either (.class (!Text.isDigit ·)) finish]

def numbers (p : Pattern Part) (s : List Char) : List (Capture Part) :=
  (p.allMatches s).filterMap (·.capture? .number)

def withoutEndMarks (s : List Char) : List Char := Text.stripRight Question.isDigitSeparator s

abbrev Found := Option (String × Scalar)

/-- The first project number of three or four digits; its length is counted in bytes. -/
def project? (q : Question) (_ : Domain) : Found :=
  let candidates := (numbers projectNumber q.folded).map fun c => withoutEndMarks c.text
  let isProject (s : List Char) : Bool :=
    !s.contains ',' && 3 ≤ Text.utf8Length s && Text.utf8Length s ≤ 4
  (candidates.find? isProject).map fun s => ("tabar_number", .text (String.ofList s))

/-- The first year that is not the number of a comparison. -/
def year? (q : Question) (_ : Domain) : Found :=
  let amounts := (numbers amountBound q.folded).map (·.start)
  ((numbers yearNumber q.folded).find? fun c => !amounts.contains c.start).bind fun c =>
    (readInt64? c.text).map fun n => ("year", .integer n)

/-- A ministry, if one is named and the domain knows ministries, and otherwise a department. -/
def department? (q : Question) (d : Domain) : Found :=
  match Vocabulary.lookup? Vocabulary.ministries q.folded with
  | some ministry =>
    (["ministry", "ministries"].find? d.accepts).map fun key => (key, .text ministry)
  | none =>
    (Vocabulary.lookup? Vocabulary.departments q.folded).map fun name =>
      ("department", .text name)

/-- The text with some phrases taken out. -/
def without (phrases : List String) (s : List Char) : List Char :=
  phrases.foldl (fun s phrase => Text.replaceAll (Folding.foldText phrase) [' '] s) s

def multiplier (unit : List Char) : Float :=
  if ["אלפ", "אלפימ", "thousand", "k"].any (·.toList == unit) then 1000.0
  else if ["מיליונ", "מליונ", "million", "m"].any (·.toList == unit) then 1000000.0
  else if unit = "מיליארד".toList then 1000000000.0
  else 1.0

/-- The suffix of a key for the direction of a comparison. -/
def directionSuffix (m : PatternMatch Part) : String :=
  if (m.capture? .above).isSome then FilterKey.aboveSuffix else FilterKey.belowSuffix

/-- A comparison of the amount of the domain. -/
def amount? (q : Question) (d : Domain) : Found :=
  d.amountField?.bind fun field =>
    (amountBound.find? (without Vocabulary.dateBounds q.folded)).bind fun m =>
      (m.capture? .number).bind fun number =>
        (readFloat? ((withoutEndMarks number.text).filter (· != ','))).map fun x =>
          let unit := ((m.capture? .unit).map (·.text)).getD []
          (field.key ++ directionSuffix m, Scalar.ofFloat (x * multiplier unit))

/-- The first phrase in a text whose value a field allows. A phrase that is found but not allowed
is taken out, so that the shorter ones it contains are not found. -/
def statusIn? (field : Field) : List Vocabulary.Phrase → List Char → Option String
  | [], _ => none
  | phrase :: rest, s =>
    let folded := Folding.foldText phrase.text
    if Text.occursIn folded s then
      if field.allows phrase.value then some phrase.value
      else statusIn? field rest (Text.replaceAll folded [' '] s)
    else statusIn? field rest s

def status? (q : Question) (d : Domain) : Found :=
  (d.field? "status").bind fun field =>
    (statusIn? field Vocabulary.statusPhrases
      (without Vocabulary.statusExclusions q.folded)).map fun value => ("status", .text value)

def transactionType? (q : Question) (d : Domain) : Found :=
  (d.field? "transaction_type").bind fun field =>
    (Vocabulary.transactionTypes.find? fun phrase =>
      q.contains (Folding.foldText phrase.text) && field.allows phrase.value).map fun phrase =>
        ("transaction_type", .text phrase.value)

def order? (q : Question) (_ : Domain) : Found :=
  (orderNumber.find? q.folded).bind fun m =>
    (m.capture? .number).map fun c => ("order_number", .text (String.ofList c.text))

/-- A rule that finds at most one filter in a question about a domain. -/
structure Rule where
  name : String
  find : Question → Domain → Found

def rules : List Rule :=
  [⟨"tabar_number", project?⟩, ⟨"year", year?⟩, ⟨"department", department?⟩,
   ⟨"amount", amount?⟩, ⟨"status", status?⟩, ⟨"transaction_type", transactionType?⟩,
   ⟨"order_number", order?⟩]

/-- Adds what a rule finds, unless the domain does not accept it or the key is taken. -/
def apply (q : Question) (d : Domain) (found : Filters) (rule : Rule) : Filters :=
  match rule.find q d with
  | none => found
  | some (key, value) =>
    if d.accepts key && !found.contains key then found.insert key value else found

def filtersBy (rules : List Rule) (q : Question) (d : Domain) : Filters :=
  rules.foldl (apply q d) .empty

def filters (q : Question) (d : Domain) : Filters := filtersBy rules q d

end Extraction

end CivicReport
