import CivicReport.Proofs.Query.Shape
import CivicReport.Proofs.Report.Cells
import CivicReport.Registry.Municipal

/-!
What a report shows of the rows that came back. A table keeps them as they are, and an aggregate is
read off one member of the first row, which is found under the name that plans give to their only
column. Main statement: the rows are counted, the columns of a table are the members of its first
row, those of an aggregate are the columns of its plans, and its cell is computed from the member of
that name.
-/
namespace CivicReport

namespace Report

open Compilation

variable {a : Action} {d : Domain} {i : Intent} {rows others : List Row} {key : String}

/-- The name of the only column of an aggregate. -/
def aliasOf? : Action → Option String
  | .count => some "count"
  | .sum => some "total_sum"
  | .average => some "average"
  | .list | .group => none

theorem exists_aliasOf? (h : a.isAggregate = true) : ∃ key, aliasOf? a = some key := by
  cases a with
  | count | sum | average => exact ⟨_, rfl⟩
  | list | group => contradiction

theorem body_of_aliasOf? (hkey : aliasOf? a = some key) (rowCap : Nat) (rows : List Row)
    (d : Domain) : ∃ column message, column.key = key ∧
      body rowCap rows a d = ([column], [[(key, cellOf a (value? rows key))]], message) := by
  cases a with
  | count | sum =>
    obtain rfl := Option.some.inj hkey
    exact ⟨_, _, rfl, rfl⟩
  | average =>
    obtain rfl := Option.some.inj hkey
    simp only [body, average]
    cases value? rows "average" with
    | none => exact ⟨_, _, rfl, rfl⟩
    | some x => exact ⟨_, _, rfl, rfl⟩
  | list | group => contradiction

theorem isAggregate_of_aliasOf? (h : aliasOf? a = some key) : a.isAggregate = true := by
  cases a with
  | count | sum | average => rfl
  | list | group => contradiction

/-- What the first row has under a name. -/
def firstCell? (rows : List Row) (key : String) : Option Json := rows.head?.bind (Json.lookup key)

/-- An aggregate sees nothing but one member of the first row. -/
theorem body_congr (hkey : aliasOf? a = some key) (h : firstCell? others key = firstCell? rows key)
    (rowCap : Nat) (d : Domain) : body rowCap others a d = body rowCap rows a d := by
  have hvalue : value? others key = value? rows key := congrArg (·.bind number?) h
  cases a with
  | count =>
    obtain rfl := Option.some.inj hkey
    simp only [body, count, hvalue]
  | sum =>
    obtain rfl := Option.some.inj hkey
    simp only [body, sum, hvalue]
  | average =>
    obtain rfl := Option.some.inj hkey
    simp only [body, average, hvalue]
  | list | group => contradiction

theorem names_of_projection (hkey : aliasOf? i.action = some key) {shown : List Projection}
    (h : projection d i = .ok shown) : shown.map (·.name) = [key] := by
  unfold projection at h
  cases haction : i.action with
  | count =>
    rw [haction] at h hkey
    obtain rfl := Except.ok.inj h
    obtain rfl := Option.some.inj hkey
    rfl
  | sum | average =>
    rw [haction] at h hkey
    obtain ⟨column, -, h⟩ := bind_eq_ok.1 h
    obtain rfl := Except.ok.inj h
    obtain rfl := Option.some.inj hkey
    rfl
  | list | group =>
    rw [haction] at hkey
    contradiction

theorem key_columnFor (rows : List Row) (d : Domain) (key : String) :
    (columnFor rows d key).key = key := by
  unfold columnFor
  repeat' split
  all_goals rfl

theorem map_key_columnsOf (rows : List Row) (d : Domain) :
    (columnsOf rows d).map (·.key) = (rows.head?.getD []).map (·.1) := by
  cases rows with
  | nil => rfl
  | cons first later => simp [columnsOf, key_columnFor]

theorem body_table (h : a.isAggregate = false) (rowCap : Nat) (rows : List Row) (d : Domain) :
    ∃ message, body rowCap rows a d = (columnsOf rows d, rows, message) := by
  cases a with
  | count | sum | average => contradiction
  | list | group =>
    cases rows with
    | nil => exact ⟨_, rfl⟩
    | cons first later => exact ⟨_, rfl⟩

theorem rows_of_aliasOf? (hkey : aliasOf? i.action = some key) (rowCap : Nat) (now : Timestamp)
    (rows : List Row) (d : Domain) : ∃ column cell,
      column.key = key ∧ (ofRows rowCap now rows i d).columns = [column] ∧
      (ofRows rowCap now rows i d).rows = [[(key, cell)]] ∧
      ∀ other, IsCell (firstCell? rows key) i.action other ↔ other = cell := by
  obtain ⟨column, message, hname, hbody⟩ := body_of_aliasOf? hkey rowCap rows d
  refine ⟨column, cellOf i.action (value? rows key), hname, ?_, ?_, fun other => ?_⟩
  · simp only [ofRows, hbody]
  · simp only [ofRows, hbody]
  · exact isCell_iff (isAggregate_of_aliasOf? hkey)

/-- The columns of a report. For an aggregate they are those of the plans of the same intent, of
which there is one unless the domain lacks the amount, and the cell is the only one that can be made
of what the first row has under the same name. -/
theorem ofRows_columns (rowCap planCap : Nat) (now : Timestamp) (rows : List Row) (i : Intent)
    (d : Domain) :
    let report := ofRows rowCap now rows i d
    report.totalRows = report.rows.length ∧
    (i.action.isAggregate = false →
      report.rows = rows ∧ report.columns.map (·.key) = (rows.head?.getD []).map (·.1)) ∧
    (i.action.isAggregate = true → ∃ column cell,
      report.columns = [column] ∧ report.rows = [[(column.key, cell)]] ∧
      (∀ other, IsCell (firstCell? rows column.key) i.action other ↔ other = cell) ∧
      (∀ others, firstCell? others column.key = firstCell? rows column.key →
        ofRows rowCap now others i d = report) ∧
      (∀ p, d.plan planCap i = .ok p → p.projection.map (·.name) = [column.key]) ∧
      (i.domain = d.key → ¬ d.Lacks i.action → ∃ p, d.plan planCap i = .ok p)) := by
  refine ⟨rfl, fun htable => ?_, fun haggregate => ?_⟩
  · obtain ⟨message, hbody⟩ := body_table htable rowCap rows d
    simp only [ofRows, hbody]
    exact ⟨trivial, map_key_columnsOf rows d⟩
  · obtain ⟨key, hkey⟩ := exists_aliasOf? haggregate
    obtain ⟨column, cell, rfl, hcolumns, hrows, hcell⟩ := rows_of_aliasOf? hkey rowCap now rows d
    refine ⟨column, cell, hcolumns, hrows, hcell, fun others hfirst => ?_, fun p hp => ?_,
      fun hdomain hlacks => ?_⟩
    · simp only [ofRows, body_congr hkey hfirst]
    · obtain ⟨shown, hshown, rfl⟩ := Domain.of_plan_eq_ok hp
      exact names_of_projection hkey hshown
    · obtain ⟨shown, hshown⟩ := Domain.exists_projection_iff.2 hlacks
      exact ⟨_, by rw [Domain.plan_eq_map hdomain, hshown]; rfl⟩

/-- A sum that comes as text, among the other aggregates and before a row that is not looked at. -/
def totals : List Row :=
  [[("count", .number (.whole 3)), ("total_sum", .text " 12.50 "),
    ("average", .number (.real 2.125))],
   [("total_sum", .number (.whole 99))]]

def summing : Intent where
  domain := "transactions"
  action := .sum
  confidence := 0.5
  source := .rules

/-- The sum that is written as 12.50. -/
theorem isCell_totals_sum :
    IsCell (firstCell? totals "total_sum") .sum (.number (.real 12.5)) := by
  have hread : readFloat? (Text.trim " 12.50 ".toList) = some 12.5 := by decide +kernel
  exact .sum (.text hread) (shows_real (by decide) (by decide))

theorem isCell_totals_count :
    IsCell (firstCell? totals "count") .count (.number (.whole 3)) := by
  have hvalue : floatValue? (Float.ofInt 3) = some ((3 : Int) : ℚ) :=
    wholeNumber?_eq_some_iff.1 (by decide)
  have hcount : IsCount (Float.ofInt 3) (nearestInt64 (wholePart (3 : Int))) := .within hvalue
  rw [wholePart_intCast] at hcount
  exact .count (.whole 3) hcount

/-- A half of a hundredth is rounded up. -/
theorem isCell_totals_average :
    IsCell (firstCell? totals "average") .average (.number (.real 2.13)) := by
  have hparts : Dyad.ofFloat? (2.125 * 100.0) = some ⟨false, 425 * 2 ^ 44, -45⟩ := by decide +kernel
  have hround : nearestAway (Dyad.value ⟨false, 425 * 2 ^ 44, -45⟩) = 213 := by
    rw [Dyad.nearestAway_value]
    decide +kernel
  have hhundredths : (Float.ofInt 213 / 100.0 : Float) = 2.13 := by decide +kernel
  refine .average (.real 2.125) (Dyad.floatValue?_of_parts hparts) ?_
  rw [hround, hhundredths]
  exact shows_real (by decide) (by decide)

theorem ofRows_columns_totals :
    let d := Registry.transactions
    let now : Timestamp := ⟨⟨2024, 5, 20⟩, 0, 0⟩
    let report := ofRows 100 now totals summing d
    (∃ p, d.plan 100 summing = .ok p ∧ p.projection.map (·.name) = ["total_sum"]) ∧
      report.columns.map (·.key) = ["total_sum"] ∧
      report.rows = [[("total_sum", .number (.real 12.5))]] ∧
      (ofRows 100 now totals { summing with action := .count } d).rows =
        [[("count", .number (.whole 3))]] ∧
      (ofRows 100 now totals { summing with action := .average } d).rows =
        [[("average", .number (.real 2.13))]] ∧
      ofRows 100 now [[("total_sum", .text " 12.50 ")]] summing d = report ∧
      (ofRows 100 now totals { summing with action := .list } d).columns.map (·.key) =
        ["count", "total_sum", "average"] := by
  intro d now report
  obtain ⟨-, -, haggregate⟩ := ofRows_columns 100 100 now totals summing d
  obtain ⟨column, cell, hcolumns, hrows, hcell, hothers, hnames, hplan⟩ := haggregate rfl
  have hamount : ¬ d.Lacks .sum := by
    change ¬ ∀ f ∈ d.fields, _
    decide
  obtain ⟨p, hp⟩ := hplan rfl hamount
  have hkeys : report.columns.map (·.key) = ["total_sum"] := by
    simp only [report, ofRows, summing, body, sum, List.map_cons, List.map_nil]
  have hkey : column.key = "total_sum" := by
    simpa [report, hcolumns] using hkeys
  rw [hkey] at hrows hcell hothers hnames
  obtain rfl : .number (.real 12.5) = cell := (hcell _).1 isCell_totals_sum
  obtain ⟨_, counted, -, -, hcountRows, hcount⟩ :=
    rows_of_aliasOf? (i := { summing with action := .count }) rfl 100 now totals d
  obtain rfl : .number (.whole 3) = counted := (hcount _).1 isCell_totals_count
  obtain ⟨_, mean, -, -, haverageRows, haverage⟩ :=
    rows_of_aliasOf? (i := { summing with action := .average }) rfl 100 now totals d
  obtain rfl : .number (.real 2.13) = mean := (haverage _).1 isCell_totals_average
  obtain ⟨-, htable, -⟩ := ofRows_columns 100 100 now totals { summing with action := .list } d
  exact ⟨⟨p, hp, hnames p hp⟩, hkeys, hrows, hcountRows, haverageRows, hothers _ rfl,
    (htable rfl).2⟩

end Report

end CivicReport
