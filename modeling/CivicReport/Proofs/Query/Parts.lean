import CivicReport.Proofs.Query.Placeholders

/-!
What the parts of a plan are made from. The source of the rows belongs to the domain, the conditions
come from the filters, the arrangement of the rows comes from the action, and the columns come from
the action and the fields. Main statement: two plans of a domain agree in every part whose inputs
agree, so reports with the same filters are about the same rows, whatever they make of them.
-/
namespace CivicReport

namespace Plan

/-- Where both plans take their rows from. -/
structure SameSource (p q : Plan) : Prop where
  table : p.table = q.table
  shortName : p.shortName = q.shortName
  joins : p.joins = q.joins

/-- How both plans arrange the rows. -/
structure SameArrangement (p q : Plan) : Prop where
  groupBy : p.groupBy = q.groupBy
  orderBy : p.orderBy = q.orderBy
  rowCap : p.rowCap = q.rowCap
  distinct : p.distinct = q.distinct

/-- The text of the columns. -/
def columnsText (p : Plan) : String :=
  "SELECT " ++ (if p.distinct then "DISTINCT " else "") ++
    Text.joinWith ", " (p.projection.map fun x => x.expr ++ " AS " ++ x.name)

/-- The text that says which rows the plan is about: their source and the conditions on them. -/
def rowsText (p : Plan) : String :=
  " FROM " ++ p.table ++ " AS " ++ p.shortName ++ Text.joinWith "" (p.joins.map joinText) ++
    clause "WHERE" " AND " (conditionTexts 1 (p.conditions.map (·.shape)))

theorem text_eq_rowsText (p : Plan) :
    p.text = p.columnsText ++ p.rowsText ++ p.afterConditions := by
  rw [text_eq]
  simp only [beforeConditions, columnsText, rowsText, String.append_assoc]

/-- Both statements restrict the same rows: between the columns and the arrangement of the rows they
have the same text, with the same values in its placeholders. -/
def SameRows (p q : Plan) : Prop :=
  ∃ rows, p.statement.text = p.columnsText ++ rows ++ p.afterConditions ∧
    q.statement.text = q.columnsText ++ rows ++ q.afterConditions ∧
    p.statement.parameters = q.statement.parameters

theorem SameSource.sameRows {p q : Plan} (h : p.SameSource q)
    (hconditions : p.conditions = q.conditions) : p.SameRows q := by
  have hrows : p.rowsText = q.rowsText := by
    simp only [rowsText, h.table, h.shortName, h.joins, hconditions]
  have hparameters : p.parameters = q.parameters := by rw [parameters, parameters, hconditions]
  refine ⟨p.rowsText, text_eq_rowsText p, ?_, hparameters⟩
  rw [hrows]
  exact text_eq_rowsText q

end Plan

namespace Domain

open Compilation

variable {d : Domain} {i j : Intent} {rowCap : Nat} {p q : Plan}

theorem sameSource_planWith (shown shown' : List Projection) :
    (d.planWith rowCap i shown).SameSource (d.planWith rowCap j shown') :=
  ⟨rfl, rfl, rfl⟩

theorem sameArrangement_planWith (haction : i.action = j.action)
    (shown shown' : List Projection) :
    (d.planWith rowCap i shown).SameArrangement (d.planWith rowCap j shown') := by
  constructor <;> simp only [planWith, haction]

/-- The parts of two plans of a domain. The source of the rows is always the same; with the same
filters the conditions are, so that both restrict the same rows; with the same action the arrangement
of the rows is; and with the same fields as well the columns are. Nothing else of the intents, such
as their confidences, sources and explanations, has a part in it. -/
theorem parts_of_plan (hp : d.plan rowCap i = .ok p) (hq : d.plan rowCap j = .ok q) :
    p.SameSource q ∧
      (i.filters = j.filters → p.conditions = q.conditions ∧ p.SameRows q) ∧
      (i.action = j.action → p.SameArrangement q) ∧
      (i.action = j.action → i.fields = j.fields → p.projection = q.projection) := by
  obtain ⟨shown, hshown, rfl⟩ := of_plan_eq_ok hp
  obtain ⟨shown', hshown', rfl⟩ := of_plan_eq_ok hq
  have hsource : (d.planWith rowCap i shown).SameSource (d.planWith rowCap j shown') :=
    sameSource_planWith shown shown'
  refine ⟨hsource, fun hfilters => ?_, fun haction => ?_, fun haction hfields => ?_⟩
  · have hconditions : conditions d i.filters = conditions d j.filters := by rw [hfilters]
    exact ⟨hconditions, hsource.sameRows hconditions⟩
  · exact sameArrangement_planWith haction shown shown'
  · rw [projection_congr haction hfields, hshown'] at hshown
    exact (Except.ok.inj hshown).symm

/-- A list and the number of its rows. -/
theorem parts_of_plan_counted :
    let i := listing "שולם" "100" "גן"
    let j := { i with action := .count, fields := [] }
    ∃ p q, Registry.transactions.plan 100 i = .ok p ∧ Registry.transactions.plan 100 j = .ok q ∧
      p.projection.map (·.name) = ["supplier", "amount"] ∧ q.projection.map (·.name) = ["count"] ∧
      p.conditions.length = 3 ∧ p.conditions = q.conditions ∧ p.SameRows q := by
  intro i j
  have hlist : ∃ p, Registry.transactions.plan 100 i = .ok p ∧
      p.projection.map (·.name) = ["supplier", "amount"] ∧ p.conditions.length = 3 :=
    ⟨_, rfl, rfl, by decide⟩
  have hcount : ∃ q, Registry.transactions.plan 100 j = .ok q ∧
      q.projection.map (·.name) = ["count"] :=
    ⟨_, rfl, rfl⟩
  obtain ⟨p, hp, hnames, hlength⟩ := hlist
  obtain ⟨q, hq, hname⟩ := hcount
  exact ⟨p, q, hp, hq, hnames, hname, hlength, (parts_of_plan hp hq).2.1 rfl⟩

end Domain

end CivicReport
