import CivicReport.Report.Document
import CivicReport.Proofs.Calendar.Writing
import CivicReport.Proofs.Desk.Confirmation
import CivicReport.Proofs.Json.Records

/-!
Reports and outcomes as JSON documents, there and back. The status of an outcome stands among the
fields of what it is about. Main statement: an outcome without infinite numbers comes back as it
was sent, up to where its time puts a leap second.
-/
namespace CivicReport

open Json (written fields?_written texts withDefault)

theorem Timestamp.ofJson?_toJson {t : Timestamp} (h : t.Exists) :
    ofJson? t.toJson = some t.settled := by
  rw [ofJson?, toJson, Json.text?, Option.bind_some, read?_write h]

theorem Filters.ofJson?_toJson {f : Filters} (h : ∀ e ∈ f.entries, e.2.IsFinite) :
    ofJson? f.toJson = some f := by
  have hentries (entries : List (String × Scalar)) (h : ∀ e ∈ entries, e.2.IsFinite) :
      (entries.map fun e => (e.1, e.2.toJson)).mapM
        (fun m => (Scalar.ofVariants? m.2).map fun v => (m.1, v)) = some entries := by
    induction entries with
    | nil => rfl
    | cons e rest ih =>
      obtain ⟨he, hrest⟩ := List.forall_mem_cons.1 h
      have hvalue : Scalar.ofVariants? e.2.toJson = some e.2 := by
        rw [Scalar.ofVariants?_eq_ofJson?, Scalar.ofJson?_toJson he]
      simp [hvalue, ih hrest]
  rw [toJson, ofJson?, hentries f.entries h, Option.map_some, f.ofList_entries]

/-- A list that is left out where it is empty is read back. -/
theorem withDefault_texts (items : List String) :
    withDefault [] Json.texts? (if items.isEmpty then none else some (texts items)) =
      some items := by
  cases items with
  | nil => rfl
  | cons first rest => exact Json.texts?_texts (first :: rest)

namespace DatedIntent

def settled (d : DatedIntent) : DatedIntent := { d with time := d.time.settled }

def values (d : DatedIntent) : List (Option Json) :=
  [some (.text d.intent.domain), some (.text d.intent.action.name),
   some d.intent.filters.toJson,
   if d.intent.fields.isEmpty then none else some (texts d.intent.fields),
   some (Json.ofFloat d.intent.confidence), some (.text d.intent.explanation),
   some (.text d.intent.source.name), some d.time.toJson]

theorem toJson_eq_written (d : DatedIntent) : d.toJson = .object (written names d.values) := by
  unfold toJson Intent.toMembers values
  cases d.intent.fields.isEmpty <;> rfl

theorem ofJsonBy?_toJson {tag? : Json → Option String} (htag : ∀ s, tag? (.text s) = some s)
    {d : DatedIntent} (hconfidence : d.intent.confidence.isFinite)
    (hfilters : ∀ e ∈ d.intent.filters.entries, e.2.IsFinite) (htime : d.time.Exists) :
    ofJsonBy? tag? d.toJson = some d.settled := by
  rw [ofJsonBy?, toJson_eq_written, fields?_written (by decide) rfl]
  simp only [values, Option.bind_eq_bind, Option.bind_some, Json.required_some, withDefault_texts,
    Json.withDefault_some, htag, Action.named?_name, Source.named?_name,
    Filters.ofJson?_toJson hfilters, Json.ofFloat_of_isFinite hconfidence,
    Timestamp.ofJson?_toJson htime, Json.text?, Json.float?]
  rfl

end DatedIntent

theorem Column.ofJson?_toJson (c : Column) : ofJson? c.toJson = some c := by
  have hwritten : c.toJson = .object (written ["key", "label", "type"]
      [some (.text c.key), some (.text c.label), some (.text c.kind.name)]) := rfl
  rw [ofJson?, hwritten, fields?_written (by decide) rfl]
  simp only [Option.bind_eq_bind, Option.bind_some, Json.required_some, Json.text?, Json.innerTag?,
    Json.tag?, ColumnKind.named?_name]
  rfl

namespace Report

def settled (r : Report) : Report := { r with executedAt := r.executedAt.settled }

theorem summaryOfJson?_written (total : Json) (message : String) :
    summaryOfJson? (.object (written ["totalRows", "message"] [some total, some (.text message)])) =
      total.count?.map fun n => (n, message) := by
  rw [summaryOfJson?, fields?_written (by decide) rfl]
  simp only [Option.bind_eq_bind, Option.bind_some, Json.required_some, Json.text?]
  cases total.count? <;> rfl

theorem summaryOfJson?_summaryToJson {r : Report} (h : r.totalRows < 18446744073709551616) :
    summaryOfJson? r.summaryToJson = some (r.totalRows, r.message) := by
  have hwritten : r.summaryToJson = .object (written ["totalRows", "message"]
      [some (Json.ofInt r.totalRows), some (.text r.message)]) := rfl
  have hrange : 0 ≤ (r.totalRows : Int) ∧ (r.totalRows : Int) < 18446744073709551616 := by omega
  have hcount : Json.count? (Json.ofInt r.totalRows) = some r.totalRows := by
    rw [Json.ofInt, Json.count?, if_pos hrange, Int.toNat_natCast]
  rw [hwritten, summaryOfJson?_written, hcount, Option.map_some]

def metadataNames : List String :=
  ["executedAt", "querySource", "confidence", "domain", "action", "warnings"]

def metadataValues (r : Report) : List (Option Json) :=
  [some r.executedAt.toJson, some (.text r.source.name), some (Json.ofFloat r.confidence),
   some (.text r.domain), some (.text r.action.name),
   if r.warnings.isEmpty then none else some (texts r.warnings)]

theorem metadataToJson_eq_written (r : Report) :
    r.metadataToJson = .object (written metadataNames r.metadataValues) := by
  unfold metadataToJson metadataValues
  cases r.warnings.isEmpty <;> rfl

theorem metadataOfJson?_metadataToJson {r : Report} (hconfidence : r.confidence.isFinite)
    (htime : r.executedAt.Exists) :
    metadataOfJson? r.metadataToJson =
      some { r.settled with columns := [], rows := [], totalRows := 0, message := "" } := by
  have hfields : Json.fields? ["executedAt", "querySource", "confidence", "domain", "action",
      "warnings"] r.metadataToJson = some r.metadataValues := by
    rw [metadataToJson_eq_written]
    exact fields?_written (by decide) rfl
  rw [metadataOfJson?, hfields]
  simp only [metadataValues, Option.bind_eq_bind, Option.bind_some, Json.required_some,
    withDefault_texts, Json.innerTag?, Json.tag?, Action.named?_name, Source.named?_name,
    Json.ofFloat_of_isFinite hconfidence, Timestamp.ofJson?_toJson htime, Json.text?, Json.float?]
  rfl

theorem ofJson?_written {columns rows summary metadata : Json} {r : Report}
    (hcolumns : columns.list? Column.ofJson? = some r.columns)
    (hrows : rows.list? Json.members? = some r.rows)
    (hsummary : summaryOfJson? summary = some (r.totalRows, r.message))
    (hmetadata : metadataOfJson? metadata =
      some { r with columns := [], rows := [], totalRows := 0, message := "" }) :
    ofJson? (.object (written names [some columns, some rows, some summary, some metadata])) =
      some r := by
  rw [ofJson?, fields?_written (by decide) rfl]
  simp only [Option.bind_eq_bind, Option.bind_some, Json.required_some, hcolumns, hrows, hsummary,
    hmetadata]
  rfl

theorem toJson_eq_written (r : Report) : r.toJson = .object (written names
    [some (.array (r.columns.map Column.toJson)), some (.array (r.rows.map .object)),
     some r.summaryToJson, some r.metadataToJson]) := rfl

theorem ofJson?_toJson {r : Report} (hconfidence : r.confidence.isFinite)
    (htotal : r.totalRows < 18446744073709551616) (htime : r.executedAt.Exists) :
    ofJson? r.toJson = some r.settled := by
  have hcolumns : (Json.array (r.columns.map Column.toJson)).list? Column.ofJson? =
      some r.settled.columns := Json.list?_array_map Column.toJson Column.ofJson?_toJson r.columns
  have hrows : (Json.array (r.rows.map .object)).list? Json.members? = some r.settled.rows :=
    Json.list?_array_map Json.object (fun _ => rfl) r.rows
  have hsummary : summaryOfJson? r.summaryToJson = some (r.settled.totalRows, r.settled.message) :=
    summaryOfJson?_summaryToJson htotal
  rw [toJson_eq_written]
  exact ofJson?_written hcolumns hrows hsummary (metadataOfJson?_metadataToJson hconfidence htime)

end Report

namespace Outcome

/-- Numbers are finite, rows are counted in 64 bits, and times exist. -/
def IsPortable : Outcome → Prop
  | completed r =>
    r.confidence.isFinite ∧ r.totalRows < 18446744073709551616 ∧ r.executedAt.Exists
  | needsConfirmation d _ =>
    d.intent.confidence.isFinite ∧ (∀ e ∈ d.intent.filters.entries, e.2.IsFinite) ∧ d.time.Exists
  | declined => True

/-- The same outcome but for its time. -/
def settled : Outcome → Outcome
  | completed r => completed r.settled
  | needsConfirmation d message => needsConfirmation d.settled message
  | declined => declined

/-- Columns, rows with whatever they hold, summary, warnings, intent and message come back as they
were, and so does the time but for a leap second that does not end a minute. -/
theorem ofJson?_toJson_eq_settled {o : Outcome} (h : o.IsPortable) :
    ofJson? o.toJson = some o.settled := by
  cases o with
  | completed r =>
    obtain ⟨hconfidence, htotal, htime⟩ := h
    -- No field of a report has the name of the status.
    have hstatus : status? (completed r).toJson = some ("completed", r.toJson) := rfl
    rw [ofJson?, hstatus]
    simp [Report.ofJson?_toJson hconfidence htotal htime, settled]
  | needsConfirmation d message =>
    obtain ⟨hconfidence, hfilters, htime⟩ := h
    have hstatus : status? (needsConfirmation d message).toJson = some ("needs_confirmation",
      .object (written ["intent", "message"] [some d.toJson, some (.text message)])) := rfl
    have hfields : Json.fields? ["intent", "message"]
        (.object (written ["intent", "message"] [some d.toJson, some (.text message)])) =
          some [some d.toJson, some (.text message)] := fields?_written (by decide) rfl
    have hintent : DatedIntent.ofJsonBy? Json.innerTag? d.toJson = some d.settled :=
      DatedIntent.ofJsonBy?_toJson (fun _ => rfl) hconfidence hfilters htime
    rw [ofJson?, hstatus]
    simp [hfields, hintent, Json.required_some, Json.text?, settled]
  | declined => rfl

/-- A report within a leap second, with a cell that looks like an outcome. -/
def nested : Report where
  columns := [⟨"amount", "Amount", .currency⟩, ⟨"notes", "Notes", .text⟩]
  rows := [[("amount", .number (.real 12.5)),
    ("notes", .array [.null, .object [("status", .text "declined")]])], []]
  totalRows := 2
  message := "2 rows"
  executedAt := ⟨⟨-44, 3, 15⟩, 43199, 1500000000⟩
  source := .model
  confidence := 0.75
  domain := "transactions"
  action := .group
  warnings := ["unknown filter 'colour' for domain 'transactions' ignored"]

theorem ofJson?_toJson_eq_settled_nested :
    (completed nested).IsPortable ∧
      ofJson? (completed nested).toJson = some (completed nested) ∧
      (needsConfirmation Desk.echo "Sum?").IsPortable ∧
      ofJson? (needsConfirmation Desk.echo "Sum?").toJson =
        some (needsConfirmation Desk.echo "Sum?") := by
  have hreport : (completed nested).IsPortable :=
    ⟨by decide, by decide, by decide⟩
  have hintent : (needsConfirmation Desk.echo "Sum?").IsPortable :=
    ⟨by decide, by decide, by decide⟩
  exact ⟨hreport, ofJson?_toJson_eq_settled hreport, hintent, ofJson?_toJson_eq_settled hintent⟩

end Outcome

end CivicReport
