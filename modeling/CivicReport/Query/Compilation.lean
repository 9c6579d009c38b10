import CivicReport.Query.Layout
import CivicReport.Intent
import CivicReport.Registry
import CivicReport.Calendar.Date

/-!
From an intent to a query plan. Values of filters become parameters of the fitting type; a value
that does not fit its field gives no condition.
-/
namespace CivicReport

namespace Domain

def layout (d : Domain) : Layout := Layout.of d.key

/-- The date that a field is the year of, if it is one. -/
def yearSource? (d : Domain) (f : Field) : Option Field :=
  ((f.derivedFrom.bind d.field?)).filter (·.kind == .date)

/-- The expression for a field in a query. -/
def column (d : Domain) (f : Field) : String :=
  match d.layout.column? f.key with
  | some expr => expr
  | none => match d.yearSource? f with
    | some source => "EXTRACT(YEAR FROM " ++ d.layout.shortName ++ "." ++ source.key ++ ")::int"
    | none => d.layout.shortName ++ "." ++ f.key

end Domain

namespace Scalar

/-- An amount: an integer if it is whole and fits. Infinities and NaN are no amounts. -/
def toAmount? : Scalar → Option Scalar
  | integer n => some (integer n)
  | v => (v.toFloat?.filter (·.isFinite)).map ofFloat

/-- A date, or the first day of a year that is written as a number. -/
def toDate? : Scalar → Option Scalar
  | integer year =>
    if 1900 ≤ year.toInt ∧ year.toInt ≤ 2100 then some (text (intText year.toInt ++ "-01-01"))
    else none
  | text s => (Date.read? (Text.trim s.toList)).map fun d => text d.write
  | decimal _ => none

/-- The value as a parameter for a field. -/
def coerce? (f : Field) (v : Scalar) : Option Scalar :=
  match f.kind with
  | .text | .enumeration => some (text v.shown)
  | .integer => v.toInt64?.map integer
  | .currency | .percentage => v.toAmount?
  | .date => v.toDate?

end Scalar

namespace Compilation

def compare? (d : Domain) (f : Field) (op : Comparison) (v : Scalar) : Option Condition :=
  (v.coerce? f).map fun value =>
    ⟨.compare (d.column f) op (if f.kind = .date then some "date" else none), value⟩

def equals? (d : Domain) (f : Field) (v : Scalar) : Option Condition :=
  if f.kind = .text ∧ d.layout.matchesParts f.key then
    some ⟨.contains (d.column f), .text (containsPattern v.shown)⟩
  else compare? d f .equal v

def searchFields (d : Domain) : List Field :=
  if d.layout.search.isEmpty then d.fields.filter (·.searchable)
  else d.layout.search.filterMap d.field?

def search? (d : Domain) (v : Scalar) : Option Condition :=
  let columns := (searchFields d).map d.column
  let wanted := Text.trimmed v.shown
  if columns.isEmpty || wanted.isEmpty then none
  else some ⟨.anyContains columns, .text (containsPattern wanted)⟩

/-- The condition that a filter of the domain stands for. -/
def condition? (d : Domain) (key : String) (v : Scalar) : Option Condition :=
  if d.accepts key then
    match FilterKey.read key with
    | .search => search? d v
    | .equals base => (d.field? base).bind (equals? d · v)
    | .above base => (d.field? base).bind (compare? d · .greater v)
    | .below base => (d.field? base).bind (compare? d · .less v)
  else none

def conditions (d : Domain) (f : Filters) : List Condition :=
  f.entries.filterMap fun e => condition? d e.1 e.2

/-- The fields of a list: those asked for, each once, or else those shown by default. -/
def listFields (d : Domain) (wanted : List String) : List Field :=
  let known := (wanted.filterMap d.field?).eraseDups
  if known.isEmpty then d.defaultFields.filterMap d.field? else known

def total (column : String) : String := "COALESCE(SUM(" ++ column ++ "), 0)"

def rowCount : Projection := ⟨"COUNT(*)", "count"⟩

def amountColumn (d : Domain) : Except SetupFault String :=
  match d.amountField? with
  | some f => .ok (d.column f)
  | none => .error (.invalid ("domain " ++ d.key ++ " has no aggregatable amount field"))

def isCategory (f : Field) : Bool :=
  f.filterable && !f.aggregatable &&
    (f.kind == .text || f.kind == .enumeration || f.kind == .integer)

/-- The field that rows are grouped by: the one of the layout, or the first category. -/
def groupField? (d : Domain) : Option Field :=
  (d.layout.groupBy.bind d.field?).or (d.fields.find? isCategory)

def groupField (d : Domain) : Except SetupFault Field :=
  match groupField? d with
  | some f => .ok f
  | none => .error (.invalid ("domain " ++ d.key ++ " has no grouping field"))

/-- Fields whose totals are asked for beside the amount. -/
def furtherTotals (d : Domain) (group : Field) (wanted : List String) : List Field :=
  (wanted.filterMap d.field?).filter fun f =>
    f.aggregatable && d.amountField? != some f && f.key != group.key

def groupProjection (d : Domain) (group : Field) (wanted : List String) : List Projection :=
  [⟨d.column group, group.key⟩, rowCount] ++
  (d.amountField?.toList.map fun f => ⟨total (d.column f), "total_sum"⟩) ++
  ((furtherTotals d group wanted).map fun f => ⟨total (d.column f), f.key⟩)

def projection (d : Domain) (i : Intent) : Except SetupFault (List Projection) :=
  match i.action with
  | .count => .ok [rowCount]
  | .sum => do pure [⟨total (← amountColumn d), "total_sum"⟩]
  | .average => do pure [⟨"AVG(" ++ (← amountColumn d) ++ ")", "average"⟩]
  | .group => do pure (groupProjection d (← groupField d) i.fields)
  | .list => .ok ((listFields d i.fields).map fun f => ⟨d.column f, f.key⟩)

def listOrder (d : Domain) : List SortTerm :=
  d.layout.orderBy.filterMap fun e => (d.field? e.1).map fun f => ⟨d.column f, e.2⟩

/-- What a report is grouped by, which groups are sorted by as well. -/
def groupColumns (d : Domain) : Action → List String
  | .group => (groupField? d).toList.map d.column
  | _ => []

def order (d : Domain) : Action → List SortTerm
  | .list => listOrder d
  | action => (groupColumns d action).map (⟨·, false⟩)

end Compilation

/-- The query plan of an intent. Only lists have a cap on their rows. -/
def Domain.plan (d : Domain) (rowCap : Nat) (i : Intent) : Except SetupFault Plan := do
  if i.domain ≠ d.key then
    .error (.invalid ("intent for domain " ++ i.domain ++ " built against domain " ++ d.key))
  else
    let projection ← Compilation.projection d i
    pure {
      table := d.table
      shortName := d.layout.shortName
      joins := d.layout.joins
      projection
      conditions := Compilation.conditions d i.filters
      groupBy := Compilation.groupColumns d i.action
      orderBy := Compilation.order d i.action
      rowCap := if i.action = .list then some rowCap else none
      distinct := d.layout.distinct && i.action == .list }

namespace Plan

def defaultRowCap : Nat := 100

end Plan

end CivicReport
