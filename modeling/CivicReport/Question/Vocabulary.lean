import CivicReport.Question

/-!
The fixed vocabulary of questions. Every table is ordered, and earlier entries win. Phrases are
written plainly and folded before they are looked for.
-/
namespace CivicReport.Vocabulary

/-- A name and the phrases that stand for it. -/
structure Entry where
  name : String
  variants : List String
  deriving Repr, DecidableEq

/-- Departments of the municipality. -/
def departments : List Entry :=
  [⟨"חינוך", ["חינוך"]⟩, ⟨"רווחה", ["רווחה", "שירותים חברתיים"]⟩, ⟨"הנדסה", ["הנדסה"]⟩,
   ⟨"תרבות", ["תרבות"]⟩, ⟨"ספורט", ["ספורט"]⟩, ⟨"תברואה", ["תברואה", "ניקיון"]⟩,
   ⟨"ביטחון", ["ביטחון", "בטחון"]⟩, ⟨"גזברות", ["גזברות"]⟩, ⟨"תשתיות", ["תשתיות"]⟩,
   ⟨"איכות הסביבה", ["איכות הסביבה"]⟩]

/-- Ministries that fund projects. They are looked for before departments, whose names they
contain. -/
def ministries : List Entry :=
  [⟨"משרד החינוך", ["משרד החינוך"]⟩, ⟨"משרד הפנים", ["משרד הפנים"]⟩,
   ⟨"משרד התחבורה", ["משרד התחבורה"]⟩, ⟨"משרד הרווחה", ["משרד הרווחה"]⟩,
   ⟨"משרד התרבות והספורט", ["משרד התרבות", "משרד הספורט"]⟩,
   ⟨"משרד הבריאות", ["משרד הבריאות"]⟩,
   ⟨"משרד הבינוי והשיכון", ["משרד הבינוי", "משרד השיכון"]⟩,
   ⟨"משרד להגנת הסביבה", ["הגנת הסביבה"]⟩]

/-- A phrase and the value it stands for. -/
structure Phrase where
  text : String
  value : String
  deriving Repr, DecidableEq

/-- Phrases that name a status. Negated and longer ones come before those they contain. -/
def statusPhrases : List Phrase :=
  [⟨"לא שולמו", "לא שולם"⟩, ⟨"לא שולם", "לא שולם"⟩, ⟨"טרם שולם", "לא שולם"⟩,
   ⟨"לא פעיל", "סגור"⟩, ⟨"לא אושר", "ממתין לאישור"⟩, ⟨"לא מאושר", "ממתין לאישור"⟩,
   ⟨"ממתין לאישור", "ממתין לאישור"⟩, ⟨"ממתינים לאישור", "ממתין לאישור"⟩,
   ⟨"ממתינים לתשלום", "ממתין"⟩, ⟨"פג תוקף", "פגה"⟩, ⟨"שולמו", "שולם"⟩, ⟨"שולם", "שולם"⟩,
   ⟨"בתוקף", "בתוקף"⟩, ⟨"פגה", "פגה"⟩, ⟨"פגו", "פגה"⟩, ⟨"מומשה", "מומשה"⟩,
   ⟨"מומשו", "מומשה"⟩, ⟨"בביצוע", "בביצוע"⟩, ⟨"סגור", "סגור"⟩, ⟨"נסגר", "סגור"⟩,
   ⟨"מאושר", "מאושר"⟩, ⟨"אושר", "מאושר"⟩, ⟨"פעיל", "פעיל"⟩, ⟨"ממתין", "ממתין"⟩]

/-- Phrases that name a type of transaction. -/
def transactionTypes : List Phrase :=
  [⟨"הכנסות", "הכנסה"⟩, ⟨"הכנסה", "הכנסה"⟩, ⟨"תקבולים", "הכנסה"⟩, ⟨"income", "הכנסה"⟩,
   ⟨"הוצאות", "הוצאה"⟩, ⟨"הוצאה", "הוצאה"⟩, ⟨"expense", "הוצאה"⟩]

/-- Phrases that contain the word of a status without naming it. -/
def statusExclusions : List String :=
  ["תקציב מאושר", "בתוקף עד"]

/-- Phrases in which a bound is a date and not an amount. -/
def dateBounds : List String :=
  ["בתוקף עד", "תוקף עד", "עד תאריך", "עד שנת", "עד סוף"]

/-- Words that ask for a report without narrowing it. -/
def reportWords : List String :=
  ["הצג", "הראה", "תראה", "תציג", "תן", "תני", "רשימה", "רשימת", "כל", "הכל", "דוח",
   "דוחות", "נתונים", "פירוט", "מידע", "show", "list", "all", "report", "give", "display"]

/-- Words that say nothing about the report. -/
def stopWords : List String :=
  ["של", "את", "יש", "על", "עם", "מה", "לי", "לנו", "אני", "אנא", "בבקשה", "הם", "זה",
   "the", "of", "a", "an", "me", "for", "in", "please", "are", "there", "what"]

/-- Words that belong to the shape of a report. -/
def actionWords : List String :=
  ["כמה", "ספירת", "ספירה", "מספר", "סכום", "סכומי", "סהכ", "סך", "ממוצע", "לפי", "פילוח",
   "מקובץ", "מקובצים", "בחלוקה", "how", "many", "count", "total", "sum", "average", "avg",
   "group", "by"]

/-- One-letter Hebrew words that are written together with the next word. -/
def attachedLetters : List Char := ['ה', 'ו', 'ב', 'ל', 'מ', 'ש', 'כ']

/-- The name of the first entry with a variant in a folded text. -/
def lookup? (table : List Entry) (folded : List Char) : Option String :=
  (table.find? fun e => e.variants.any fun v => Text.occursIn (Folding.foldText v) folded).map
    (·.name)

end CivicReport.Vocabulary
