import CivicReport.Console.Table
import CivicReport.Registry.Overview
import CivicReport.Report.Document
import CivicReport.Json.Writing

/-!
What is printed about outcomes, intents, queries and registries: a JSON document, or lines to be
read. Warnings are not part of the lines; they are told apart, as notices.
-/
namespace CivicReport

structure Printout where
  lines : List String := []
  notices : List String := []
  deriving Repr, DecidableEq

namespace Printout

def json (j : Json) : Printout := { lines := [j.pretty] }

/-- Each line with its end. -/
def textOf (lines : List String) : String := Text.joinWith "" (lines.map (· ++ "\n"))

/-! Intents. -/

def intentLines (i : Intent) : List String :=
  ["Domain:      " ++ i.domain, "Action:      " ++ i.action.name] ++
  (if i.filters.entries.isEmpty then ["Filters:     (none)"]
   else "Filters:" :: i.filters.entries.map fun e => "  " ++ e.1 ++ " = " ++ e.2.shown) ++
  (if i.fields.isEmpty then [] else ["Fields:      " ++ Text.joinWith ", " i.fields]) ++
  ["Confidence:  " ++ fixedText 2 i.confidence, "Source:      " ++ i.source.name] ++
  (if i.explanation.isEmpty then [] else ["Explanation: " ++ i.explanation])

def ofIntent (asJson : Bool) (i : DatedIntent) : Printout :=
  if asJson then json i.toJson else { lines := intentLines i.intent }

/-! Outcomes. -/

/-- The text of a value in a column. -/
def cellText (kind : ColumnKind) (value : Json) : String :=
  match value, kind with
  | .null, _ => "-"
  | .number n, .currency => Amount.write n.toFloat
  | .number n, .decimal => Amount.write n.toFloat
  | .number n, .percentage => n.write ++ "%"
  | .text s, .date => String.ofList (s.toList.take 10)
  | .text s, _ => s
  | .bool b, _ => if b then "כן" else "לא"
  | j, _ => j.compact

def cell (row : Row) (c : Column) : String :=
  Table.clip (cellText c.kind ((Json.lookup c.key row).getD .null))

def footer (r : Report) : String :=
  "[" ++ r.domain ++ " · " ++ r.action.name ++ " · " ++ r.source.name ++ " · confidence " ++
    fixedText 2 r.confidence ++ "]"

def reportLines (r : Report) : List String :=
  if r.columns.isEmpty then [r.message]
  else
    [r.message, ""] ++
    Table.lines (r.columns.map (·.label)) (r.rows.map fun row => r.columns.map (cell row)) ++
    ["", footer r]

def warning (text : String) : String := "warning: " ++ text

def ofOutcome (asJson : Bool) (o : Outcome) : Printout :=
  if asJson then json o.toJson
  else match o with
    | .completed report =>
      { lines := reportLines report, notices := report.warnings.map warning }
    | .needsConfirmation i message =>
      { lines := [message, ""] ++ intentLines i.intent ++
          ["", "Run again with --yes to execute this interpretation."] }
    | .declined => { lines := ["הפענוח נדחה והשאילתה לא הורצה"] }

/-! Queries. -/

def parameterLines (first : Nat) : List Scalar → List String
  | [] => []
  | v :: rest =>
    ("  " ++ Plan.placeholder first ++ " = " ++ v.quoted) :: parameterLines (first + 1) rest

def ofStatement (asJson : Bool) (i : DatedIntent) (s : Statement) : Printout :=
  if asJson then
    json (.object
      [("intent", i.toJson), ("sql", .text s.text),
       ("params", .array (s.parameters.map Scalar.toJson))])
  else
    { lines :=
        s.text :: if s.parameters.isEmpty then [] else "" :: parameterLines 1 s.parameters }

/-! Registries. -/

def overviewLine (key fields label : String) : String :=
  Table.pad 16 key ++ " " ++ Table.pad 8 fields ++ " " ++ label

def ofOverview (asJson : Bool) (o : Overview) : Printout :=
  if asJson then json o.toJson
  else
    { lines :=
        [overviewLine "DOMAIN" "FIELDS" "LABEL", String.ofList (List.replicate 60 '-')] ++
        (o.domains.map fun d => overviewLine d.key (natText d.fields.length) d.label) ++
        ["", "Total: " ++ natText o.total ++ " domains"] }

end Printout

end CivicReport
