import CivicReport.Question.Extraction
import CivicReport.Question.Ranking
import CivicReport.Question.Shape
import CivicReport.Intent

/-!
The reading of a question by rules: the best domain, the shape of the report, the filters, and a
search for the words themselves where nothing else narrows the report.
-/
namespace CivicReport

namespace Interpretation

/-- Words that domains are known by, and the words of their names. -/
def vocabulary (r : Registry) : List (List Char) :=
  (r.domains.flatMap fun d => d.primaryWords ++ d.secondaryWords ++ [d.label]).flatMap
    fun term => (Text.splitAt ' ' (Folding.foldText term)).filter (!·.isEmpty)

def commonWords : List (List Char) :=
  (Vocabulary.reportWords ++ Vocabulary.stopWords ++ Vocabulary.actionWords).map Folding.foldText

def statusPhrases : List (List Char) :=
  Vocabulary.statusPhrases.map fun phrase => Folding.foldText phrase.text

/-- The word without a letter that is only attached to it, if more than one letter is left. -/
def detached (token : List Char) : List Char :=
  match token with
  | c :: rest =>
    if Vocabulary.attachedLetters.contains c && 1 < rest.length then rest else token
  | [] => token

/-- Whether a word says nothing beyond the domain and the shape of the report, given the words
that domains are known by. -/
def isKnown (domainWords : List (List Char)) (token : List Char) : Bool :=
  token.length ≤ 1 || !token.any Text.isAlphanumeric ||
  commonWords.any (fun word => word == token || word == detached token) ||
  domainWords.any fun word => word == token || (2 < word.length && Text.occursIn word token)

def isReportPhrase (r : Registry) (q : Question) : Bool :=
  let domainWords := vocabulary r
  q.tokens.all (isKnown domainWords)

/-- Whether a word contains one of the words of a status phrase. -/
def namesStatus (token : List Char) : Bool :=
  statusPhrases.any fun phrase =>
    (Text.splitAt ' ' phrase).any fun word => 1 < word.length && Text.occursIn word token

/-- Whether a question names a status and nothing that the vocabulary does not cover. -/
def isStatusPhrase (r : Registry) (q : Question) : Bool :=
  let domainWords := vocabulary r
  statusPhrases.any q.contains &&
    q.tokens.all fun token => isKnown domainWords token || namesStatus token

def filtersText (f : Filters) : String :=
  if f.isEmpty then "ללא"
  else Text.joinWith ", " (f.entries.map fun e => e.1 ++ "=" ++ e.2.shown)

def explanation (d : Domain) (action : Action) (f : Filters) : String :=
  "תחום: " ++ d.label ++ ", פעולה: " ++ action.displayName ++ ", מסננים: " ++ filtersText f

/-- The filters of a question, or a search for all of it if it has none and is more than a
phrase of known words. -/
def filtersOrSearch (r : Registry) (q : Question) (found : Filters) : Filters :=
  if found.isEmpty && !isReportPhrase r q && !isStatusPhrase r q then
    found.insert FilterKey.searchKey (.text q.rawText)
  else found

def intentIn (r : Registry) (q : Question) (d : Domain) (score : Nat) : Intent :=
  let found := Extraction.filters q d
  let filters := filtersOrSearch r q found
  let action := Shape.action q
  { domain := d.key, action, filters
    confidence := Confidence.ofTenths score found.size
    explanation := explanation d action filters
    source := .rules }

/-- The reading by rules, unless no domain fits well enough. -/
def byRules? (r : Registry) (q : Question) : Option Intent :=
  (Ranking.best? (Ranking.scores r q)).bind fun best =>
    if best.2 < Ranking.least then none else some (intentIn r q best.1 best.2)

/-- A list of the fallback domain, searched for the words of the question. -/
def fallback (r : Registry) (q : Question) : Intent where
  domain := r.fallback.key
  action := .list
  filters := Filters.empty.insert FilterKey.searchKey (.text q.rawText)
  confidence := Confidence.fallback
  explanation := "חיפוש חופשי ב" ++ r.fallback.label
  source := .fallback

end Interpretation

end CivicReport
