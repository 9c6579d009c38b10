import CivicReport.Report

/-! Reports and outcomes as JSON documents. -/
namespace CivicReport

open Json (required withDefault)

namespace Column

def toJson (c : Column) : Json :=
  .object [("key", .text c.key), ("label", .text c.label), ("type", .text c.kind.name)]

def ofJson? (j : Json) : Option Column := do
  match ← j.fields? ["key", "label", "type"] with
  | [key, label, kind] =>
    pure {
      key := ← required Json.text? key
      label := ← required Json.text? label
      kind := ← required (·.innerTag?.bind ColumnKind.named?) kind }
  | _ => none

end Column

namespace Report

def summaryToJson (r : Report) : Json :=
  .object [("totalRows", Json.ofInt r.totalRows), ("message", .text r.message)]

def metadataToJson (r : Report) : Json :=
  .object <|
    [("executedAt", r.executedAt.toJson), ("querySource", .text r.source.name),
     ("confidence", Json.ofFloat r.confidence), ("domain", .text r.domain),
     ("action", .text r.action.name)] ++
    if r.warnings.isEmpty then [] else [("warnings", Json.texts r.warnings)]

def toMembers (r : Report) : List (String × Json) :=
  [("columns", .array (r.columns.map Column.toJson)), ("rows", .array (r.rows.map .object)),
   ("summary", r.summaryToJson), ("metadata", r.metadataToJson)]

def toJson (r : Report) : Json := .object r.toMembers

def summaryOfJson? (j : Json) : Option (Nat × String) := do
  match ← j.fields? ["totalRows", "message"] with
  | [totalRows, message] =>
    pure (← required Json.count? totalRows, ← required Json.text? message)
  | _ => none

/-- A report whose rows and columns are still to be filled in. -/
def metadataOfJson? (j : Json) : Option Report := do
  match ← j.fields? ["executedAt", "querySource", "confidence", "domain", "action", "warnings"] with
  | [executedAt, source, confidence, domain, action, warnings] =>
    pure {
      columns := []
      rows := []
      totalRows := 0
      message := ""
      executedAt := ← required Timestamp.ofJson? executedAt
      source := ← required (·.innerTag?.bind Source.named?) source
      confidence := ← required Json.float? confidence
      domain := ← required Json.text? domain
      action := ← required (·.innerTag?.bind Action.named?) action
      warnings := ← withDefault [] Json.texts? warnings }
  | _ => none

def names : List String := ["columns", "rows", "summary", "metadata"]

def ofJson? (j : Json) : Option Report := do
  match ← j.fields? names with
  | [columns, rows, summary, metadata] =>
    let columns ← required (Json.list? Column.ofJson?) columns
    let rows ← required (Json.list? Json.members?) rows
    let (totalRows, message) ← required summaryOfJson? summary
    let report ← required metadataOfJson? metadata
    pure { report with columns, rows, totalRows, message }
  | _ => none

end Report

namespace Outcome

def toJson : Outcome → Json
  | completed report => .object (("status", .text "completed") :: report.toMembers)
  | needsConfirmation intent message =>
    .object
      [("status", .text "needs_confirmation"), ("intent", intent.toJson),
       ("message", .text message)]
  | declined => .object [("status", .text "declined")]

/-- The status of an outcome, and the document without it. -/
def status? : Json → Option (String × Json)
  | .object members =>
    match Json.lookup "status" members with
    | some (.text status) => some (status, .object (members.filter (·.1 != "status")))
    | _ => none
  | .array (.text status :: rest) => some (status, .array rest)
  | _ => none

def ofJson? (j : Json) : Option Outcome := do
  let (status, j) ← status? j
  if status = "completed" then pure (.completed (← Report.ofJson? j))
  else if status = "needs_confirmation" then
    match ← j.fields? ["intent", "message"] with
    | [intent, message] =>
      pure (.needsConfirmation (← required (DatedIntent.ofJsonBy? Json.innerTag?) intent)
        (← required Json.text? message))
    | _ => none
  else if status = "declined" then
    match j with
    | .array (_ :: _) => none
    | _ => pure .declined
  else none

end Outcome

end CivicReport
