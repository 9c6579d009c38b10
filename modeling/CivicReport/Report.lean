import CivicReport.Intent.Document
import CivicReport.Registry.Domain
import CivicReport.Report.Amount
import CivicReport.Pattern
import CivicReport.Query.Compilation
import CivicReport.Store

/-!
Reports made of the rows that a query returned: columns with labels and types, a summary in
words, and what is known about the query. A report of an aggregate always has one row with one
cell.
-/
namespace CivicReport

namespace Pattern

/-- A day, optionally with a time and an offset. -/
def isoDate : Pattern Unit :=
  let two := digits 2 (some 2)
  let seconds := chain [text ":", two, maybe (seq (text ".") (digits 1 none))]
  let offset := either (text "Z")
    (chain [.class (fun c => c == '+' || c == '-'), two, maybe (text ":"), two])
  let time := chain [.class (fun c => c == 'T' || c == ' '), two, text ":", two, maybe seconds,
    maybe offset]
  chain [start, digits 4 (some 4), text "-", two, text "-", two, maybe time, finish]

end Pattern

inductive ColumnKind where
  | integer
  | decimal
  | currency
  | percentage
  | date
  | enumeration
  | text
  | boolean
  deriving Repr, DecidableEq

namespace ColumnKind

def all : List ColumnKind :=
  [integer, decimal, currency, percentage, date, enumeration, text, boolean]

def name : ColumnKind → String
  | integer => "integer"
  | decimal => "decimal"
  | currency => "currency"
  | percentage => "percentage"
  | date => "date"
  | enumeration => "enum"
  | text => "text"
  | boolean => "boolean"

def named? (s : String) : Option ColumnKind := all.find? (·.name == s)

@[simp] theorem named?_name (k : ColumnKind) : named? k.name = some k := by cases k <;> decide

def ofField : FieldKind → ColumnKind
  | .integer => integer
  | .text => text
  | .currency => currency
  | .date => date
  | .enumeration => enumeration
  | .percentage => percentage

/-- The kind of a value that no field describes. -/
def ofJson : Json → ColumnKind
  | .bool _ => boolean
  | .number (.whole _) => integer
  | .number (.real x) => if (wholeNumber? x).isSome then integer else decimal
  | .text s => if Pattern.isoDate.occurs s.toList then date else text
  | _ => text

end ColumnKind

structure Column where
  key : String
  label : String
  kind : ColumnKind
  deriving Repr, DecidableEq


structure Report where
  columns : List Column
  rows : List Row
  totalRows : Nat
  message : String
  executedAt : Timestamp
  source : Source
  confidence : Float
  domain : String
  action : Action
  warnings : List String := []

namespace Report

/-- Numbers may come as numbers or as texts. -/
def number? : Json → Option Float
  | .number n => some n.toFloat
  | .text s => readFloat? (Text.trim s.toList)
  | _ => none

def numberCell (x : Float) : Json :=
  match wholeNumber? x with
  | some n => if n.natAbs < twoTo 63 then Json.ofInt n else .number (.real x)
  | none => Json.ofFloat x

def value? (rows : List Row) (key : String) : Option Float :=
  (rows.head?.bind (Json.lookup key)).bind number?

/-- The one cell of an aggregate, and what to say about it. -/
structure Aggregate where
  column : Column
  cell : Json
  message : String

def amountLabel (d : Domain) : String :=
  match d.amountField? with
  | some f => f.label
  | none => "סכום"

def amountKind (d : Domain) : ColumnKind :=
  match d.amountField? with
  | some f => .ofField f.kind
  | none => .currency

def count (rows : List Row) (d : Domain) : Aggregate :=
  let n := (wholeInt64 ((value? rows "count").getD 0.0)).toInt
  { column := ⟨"count", "מספר רשומות", .integer⟩
    cell := Json.ofInt n
    message := "נמצאו " ++ intText n ++ " רשומות ב" ++ d.label }

def sum (rows : List Row) (d : Domain) : Aggregate :=
  let total := (value? rows "total_sum").getD 0.0
  let label := "סה״כ " ++ amountLabel d
  { column := ⟨"total_sum", label, amountKind d⟩
    cell := numberCell total
    message := label ++ ": " ++ Amount.write total }

def average (rows : List Row) (d : Domain) : Aggregate :=
  let label := "ממוצע " ++ amountLabel d
  let column : Column := ⟨"average", label, amountKind d⟩
  match value? rows "average" with
  | some x =>
    { column, cell := numberCell (roundHundredths x), message := label ++ ": " ++ Amount.write x }
  | none => { column, cell := .null, message := "אין נתונים לחישוב ממוצע" }

def firstValue? (rows : List Row) (key : String) : Option Json :=
  (rows.filterMap (Json.lookup key)).find? (!·.isNull)

def columnFor (rows : List Row) (d : Domain) (key : String) : Column :=
  match d.field? key with
  | some f => ⟨key, f.label, .ofField f.kind⟩
  | none =>
    if key = "count" then ⟨key, "מספר רשומות", .integer⟩
    else if key = "total_sum" then ⟨key, "סה״כ", .currency⟩
    else if key = "average" then ⟨key, "ממוצע", .currency⟩
    else ⟨key, key, (firstValue? rows key).elim .text .ofJson⟩

/-- Columns in the order of the first row. -/
def columnsOf (rows : List Row) (d : Domain) : List Column :=
  match rows with
  | [] => []
  | first :: _ => first.map fun cell => columnFor rows d cell.1

def noResults : String := "לא נמצאו תוצאות"

/-- A list that fills its cap is said to be the beginning of a longer one. -/
def listMessage (rowCap : Nat) (n : Nat) : String :=
  if n = 1 then "נמצאה תוצאה אחת"
  else if rowCap ≤ n then "מוצגות " ++ natText n ++ " התוצאות הראשונות"
  else "נמצאו " ++ natText n ++ " תוצאות"

def groupMessage (n : Nat) : String := "נמצאו " ++ natText n ++ " קבוצות"

/-- Columns, rows and message of a report. -/
def body (rowCap : Nat) (rows : List Row) (action : Action) (d : Domain) :
    List Column × List Row × String :=
  let single (a : Aggregate) : List Column × List Row × String :=
    ([a.column], [[(a.column.key, a.cell)]], a.message)
  match action with
  | .count => single (count rows d)
  | .sum => single (sum rows d)
  | .average => single (average rows d)
  | .list =>
    if rows.isEmpty then ([], [], noResults)
    else (columnsOf rows d, rows, listMessage rowCap rows.length)
  | .group =>
    if rows.isEmpty then ([], [], noResults)
    else (columnsOf rows d, rows, groupMessage rows.length)

def ofRows (rowCap : Nat) (now : Timestamp) (rows : List Row) (i : Intent) (d : Domain) :
    Report :=
  let (columns, rows, message) := body rowCap rows i.action d
  { columns, rows, totalRows := rows.length, message, executedAt := now, source := i.source
    confidence := i.confidence, domain := d.key, action := i.action }

end Report

/-- What comes of a request. -/
inductive Outcome where
  | completed (report : Report)
  | needsConfirmation (intent : DatedIntent) (message : String)
  | declined

def Outcome.report? : Outcome → Option Report
  | completed report => some report
  | _ => none

end CivicReport
