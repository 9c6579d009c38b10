import CivicReport.Proofs.Query.Conditions
import CivicReport.Proofs.Query.Placeholders
import Mathlib.Data.List.Infix

/-!
The shapes that plans have. A single value comes from one aggregate, groups are sorted by what they
are grouped by, and a list shows columns as they are: none begins with an aggregate, and none calls
one anywhere unless the key of a field does. Main statements: a domain has a plan for an action
unless it lacks the field that the action is about, and the plan has the shape of the action.
-/
namespace CivicReport

/-! Aggregates. -/

def aggregateCalls : List String :=
  ["COUNT(", "SUM(", "AVG(", "MIN(", "MAX(", "STRING_AGG(", "COALESCE(SUM("]

/-- An expression that begins with the call of an aggregate, inside a default value or not. -/
def IsAggregate (expr : String) : Prop := ∃ call ∈ aggregateCalls, call.toList <+: expr.toList

instance (expr : String) : Decidable (IsAggregate expr) := by
  unfold IsAggregate
  infer_instance

theorem isAggregate_append {call : String} (h : call ∈ aggregateCalls) (rest : String) :
    IsAggregate (call ++ rest) := by
  refine ⟨call, h, ?_⟩
  rw [String.toList_append]
  exact List.prefix_append _ _

theorem isAggregate_rowCount : IsAggregate Compilation.rowCount.expr := by decide

theorem isAggregate_total (column : String) : IsAggregate (Compilation.total column) := by
  unfold Compilation.total
  rw [String.append_assoc]
  exact isAggregate_append (by decide) _

/-- Another letter than those that calls of aggregates begin with. -/
def opensRowwise (s : String) : Bool :=
  s.toList.head?.any fun c => c != 'C' && c != 'S' && c != 'A' && c != 'M'

theorem not_isAggregate_append {opening : String} (h : opensRowwise opening = true)
    (rest : String) : ¬ IsAggregate (opening ++ rest) := by
  rintro ⟨call, hcall, tail, hexpr⟩
  have hcalls : ∀ call ∈ aggregateCalls, call ≠ "" ∧ opensRowwise call = false := by decide
  obtain ⟨hne, hcall⟩ := hcalls call hcall
  unfold opensRowwise at h hcall
  cases hfirst : opening.toList with
  | nil => simp [hfirst] at h
  | cons c _ =>
    cases hletters : call.toList with
    | nil => exact hne (String.toList_eq_nil_iff.1 hletters)
    | cons c' _ =>
      rw [String.toList_append, hfirst, hletters] at hexpr
      obtain rfl : c' = c := (List.cons.inj hexpr).1
      simp_all

/-- An expression that calls an aggregate anywhere. -/
def CallsAggregate (expr : String) : Prop :=
  ∃ call ∈ aggregateCalls, call.toList <:+: expr.toList

instance (expr : String) : Decidable (CallsAggregate expr) := by
  unfold CallsAggregate
  infer_instance

theorem IsAggregate.callsAggregate {expr : String} (h : IsAggregate expr) :
    CallsAggregate expr := by
  obtain ⟨call, hcall, hexpr⟩ := h
  exact ⟨call, hcall, hexpr.isInfix⟩

/-- A call ends with its bracket, so none reaches into a text that has none. -/
theorem infix_of_infix_append {call front back : List Char} (hcall : call.getLast? = some '(')
    (hback : '(' ∉ back) (h : call <:+: front ++ back) : call <:+: front := by
  obtain ⟨before, after, heq⟩ := h
  obtain ⟨rest, hfront, -⟩ | ⟨rest, hreach, hrest⟩ := List.append_eq_append_iff.1 heq
  · exact ⟨before, rest, hfront.symm⟩
  · obtain rfl | ⟨rest, last, rfl⟩ := List.eq_nil_or_concat' rest
    · rw [List.append_nil] at hreach
      exact ⟨before, [], by rw [List.append_nil, hreach]⟩
    · have hends := congrArg List.getLast? hreach
      rw [List.getLast?_append, hcall, ← List.append_assoc, List.getLast?_concat] at hends
      obtain rfl : '(' = last := Option.some.inj hends
      exact absurd (by simp [hrest]) hback

theorem not_callsAggregate_append {front back : String} (hfront : ¬ CallsAggregate front)
    (hback : '(' ∉ back.toList) : ¬ CallsAggregate (front ++ back) := by
  rintro ⟨call, hcall, hinfix⟩
  have hbrackets : ∀ call ∈ aggregateCalls, call.toList.getLast? = some '(' := by decide
  rw [String.toList_append] at hinfix
  exact hfront ⟨call, hcall, infix_of_infix_append (hbrackets call hcall) hback hinfix⟩

namespace Layout

/-- The columns of a layout are read off single rows: those that are computed call no aggregate, and
the others begin with the short name. -/
structure IsRowwise (l : Layout) : Prop where
  shortName : opensRowwise l.shortName = true
  bracketless : '(' ∉ l.shortName.toList
  columns : ∀ e ∈ l.columns, ¬ CallsAggregate e.2

theorem isRowwise_of (domain : String) : (Layout.of domain).IsRowwise := by
  have hnames : ∀ e ∈ catalogue, opensRowwise e.2.shortName = true := by decide
  have hbrackets : ∀ e ∈ catalogue, '(' ∉ e.2.shortName.toList := by decide
  have hcolumns : ∀ e ∈ catalogue, ∀ c ∈ e.2.columns, ¬ CallsAggregate c.2 := by
    decide +kernel
  unfold Layout.of known?
  cases hfind : catalogue.find? (·.1 == domain) with
  | none => exact ⟨by decide, by decide, List.forall_mem_nil _⟩
  | some e =>
    have he : e ∈ catalogue := List.mem_of_find?_eq_some hfind
    exact ⟨hnames e he, hbrackets e he, hcolumns e he⟩

end Layout

namespace Domain

open Compilation

variable {d : Domain} {f : Field} {i : Intent}

/-- A column is computed, taken from a date, or named after its field. -/
theorem column_cases (d : Domain) (f : Field) :
    (∃ e ∈ d.layout.columns, d.column f = e.2) ∨
    (∃ source ∈ d.fields, d.column f =
      "EXTRACT(YEAR FROM " ++ (d.layout.shortName ++ ("." ++ (source.key ++ ")::int")))) ∨
    d.column f = d.layout.shortName ++ ("." ++ f.key) := by
  unfold column
  cases hexpr : d.layout.column? f.key with
  | some expr =>
    obtain ⟨e, he, rfl⟩ := Option.map_eq_some_iff.1 hexpr
    exact .inl ⟨e, List.mem_of_find?_eq_some he, rfl⟩
  | none =>
    cases hyear : d.yearSource? f with
    | none => exact .inr (.inr String.append_assoc)
    | some source =>
      obtain ⟨hsource, -⟩ := Option.filter_eq_some_iff.1 hyear
      obtain ⟨key, -, hfield⟩ := Option.bind_eq_some_iff.1 hsource
      refine .inr (.inl ⟨source, List.mem_of_find?_eq_some hfield, ?_⟩)
      simp only [String.append_assoc]

theorem not_isAggregate_column (d : Domain) (f : Field) : ¬ IsAggregate (d.column f) := by
  have hlayout := Layout.isRowwise_of d.key
  obtain ⟨e, he, hcolumn⟩ | ⟨source, -, hcolumn⟩ | hcolumn := d.column_cases f
  · rw [hcolumn]
    exact mt IsAggregate.callsAggregate (hlayout.columns e he)
  · rw [hcolumn]
    exact not_isAggregate_append (by decide) _
  · rw [hcolumn]
    exact not_isAggregate_append hlayout.shortName _

/-- Only the key of a field could bring the call of an aggregate into a column. -/
theorem not_callsAggregate_column (hkeys : ∀ f ∈ d.fields, '(' ∉ f.key.toList) (hf : f ∈ d.fields) :
    ¬ CallsAggregate (d.column f) := by
  have hlayout := Layout.isRowwise_of d.key
  have hname : '(' ∉ d.layout.shortName.toList := hlayout.bracketless
  obtain ⟨e, he, hcolumn⟩ | ⟨source, hsource, hcolumn⟩ | hcolumn := d.column_cases f
  · rw [hcolumn]
    exact hlayout.columns e he
  · rw [hcolumn]
    refine not_callsAggregate_append (by decide +kernel) ?_
    simp [hname, hkeys source hsource]
  · rw [hcolumn, ← String.empty_append (s := d.layout.shortName), String.append_assoc]
    refine not_callsAggregate_append (by decide +kernel) ?_
    simp [hname, hkeys f hf]

/-! What a domain can lack. -/

/-- A currency is a number, so the second look finds what the first one misses. -/
theorem amountField?_eq_none_iff : d.amountField? = none ↔
    ∀ f ∈ d.fields, ¬ (f.aggregatable = true ∧ f.kind.isNumeric = true) := by
  rw [amountField?, Option.or_eq_none_iff, List.find?_eq_none, List.find?_eq_none]
  simp only [Bool.and_eq_true, beq_iff_eq]
  refine ⟨And.right, fun hnone => ⟨fun f hf => ?_, hnone⟩⟩
  rintro ⟨haggregatable, hcurrency⟩
  exact hnone f hf ⟨haggregatable, by rw [hcurrency]; rfl⟩

theorem field?_eq_none_iff {key : String} : d.field? key = none ↔ ∀ f ∈ d.fields, f.key ≠ key := by
  simp [field?]

theorem groupField?_eq_none_iff : groupField? d = none ↔
    (∀ key, d.layout.groupBy = some key → ∀ f ∈ d.fields, f.key ≠ key) ∧
      ∀ f ∈ d.fields, ¬ (f.filterable = true ∧ f.aggregatable = false ∧
        (f.kind = .text ∨ f.kind = .enumeration ∨ f.kind = .integer)) := by
  rw [groupField?, Option.or_eq_none_iff, List.find?_eq_none, Option.bind_eq_none_iff]
  simp only [field?_eq_none_iff, isCategory, Bool.and_eq_true, Bool.not_eq_true', Bool.or_eq_true,
    beq_iff_eq, and_assoc, or_assoc]

/-- The action is about a field that the domain does not have. -/
def Lacks (d : Domain) : Action → Prop
  | .count | .list => False
  | .sum | .average => ∀ f ∈ d.fields, ¬ (f.aggregatable = true ∧ f.kind.isNumeric = true)
  | .group => (∀ key, d.layout.groupBy = some key → ∀ f ∈ d.fields, f.key ≠ key) ∧
      ∀ f ∈ d.fields, ¬ (f.filterable = true ∧ f.aggregatable = false ∧
        (f.kind = .text ∨ f.kind = .enumeration ∨ f.kind = .integer))

theorem exists_amountColumn_iff : (∃ column, amountColumn d = .ok column) ↔
    ¬ ∀ f ∈ d.fields, ¬ (f.aggregatable = true ∧ f.kind.isNumeric = true) := by
  rw [← amountField?_eq_none_iff, amountColumn]
  cases d.amountField? <;> simp

theorem exists_groupField_iff : (∃ f, groupField d = .ok f) ↔ ¬ d.Lacks .group := by
  rw [Lacks, ← groupField?_eq_none_iff, groupField]
  cases groupField? d <;> simp

theorem exists_projection_iff : (∃ shown, projection d i = .ok shown) ↔ ¬ d.Lacks i.action := by
  unfold projection
  cases i.action with
  | count | list => simp [Lacks]
  | sum | average =>
    simp only [Lacks, ← exists_amountColumn_iff, bind_eq_ok]
    constructor
    · rintro ⟨_, column, hcolumn, -⟩
      exact ⟨column, hcolumn⟩
    · rintro ⟨column, hcolumn⟩
      exact ⟨_, column, hcolumn, rfl⟩
  | group =>
    simp only [← exists_groupField_iff, bind_eq_ok]
    constructor
    · rintro ⟨_, f, hf, -⟩
      exact ⟨f, hf⟩
    · rintro ⟨f, hf⟩
      exact ⟨_, f, hf, rfl⟩

end Domain

/-- A column of the domain as it is in each row, under the key of its field. -/
def Projection.IsColumn (d : Domain) (x : Projection) : Prop :=
  (∃ f ∈ d.fields, x = ⟨d.column f, f.key⟩) ∧ ¬ IsAggregate x.expr ∧
    ((∀ f ∈ d.fields, '(' ∉ f.key.toList) → ¬ CallsAggregate x.expr)

theorem Domain.isColumn_of_mem {d : Domain} {f : Field} (hf : f ∈ d.fields) :
    Projection.IsColumn d ⟨d.column f, f.key⟩ :=
  ⟨⟨f, hf, rfl⟩, d.not_isAggregate_column f, fun hkeys => not_callsAggregate_column hkeys hf⟩

namespace Plan

/-- One aggregate over all rows, and nothing that speaks of more than one row. -/
structure IsSingle (p : Plan) : Prop where
  projection : ∃ x, p.projection = [x] ∧ IsAggregate x.expr
  groupBy : p.groupBy = []
  orderBy : p.orderBy = []
  rowCap : p.rowCap = none
  distinct : p.distinct = false

/-- What rows are grouped by stands first and is sorted by, and everything else is summed up. -/
structure IsGrouped (d : Domain) (p : Plan) : Prop where
  groups : ∃ first others, p.projection = first :: others ∧ first.IsColumn d ∧
    p.groupBy = [first.expr] ∧ p.orderBy.map (·.expr) = [first.expr] ∧
    ∀ x ∈ others, x.expr = "COUNT(*)" ∨ ∃ column, x.expr = "COALESCE(SUM(" ++ column ++ "), 0)"
  rowCap : p.rowCap = none

/-- Rows as they are, up to the cap. -/
structure IsListing (d : Domain) (rowCap : Nat) (p : Plan) : Prop where
  projection : ∀ x ∈ p.projection, x.IsColumn d
  groupBy : p.groupBy = []
  rowCap : p.rowCap = some rowCap

def HasShape (p : Plan) (d : Domain) (rowCap : Nat) : Action → Prop
  | .count | .sum | .average => p.IsSingle
  | .group => p.IsGrouped d
  | .list => p.IsListing d rowCap

end Plan

namespace Domain

open Compilation

variable {d : Domain} {i : Intent} {rowCap : Nat}

theorem ungrouped_of_isAggregate {a : Action} (h : a.isAggregate = true) :
    groupColumns d a = [] ∧ order d a = [] ∧ a ≠ .list := by
  cases a with
  | count | sum | average => exact ⟨rfl, rfl, nofun⟩
  | group | list => contradiction

theorem isSingle_planWith {x : Projection} (h : i.action.isAggregate = true)
    (hx : IsAggregate x.expr) : (d.planWith rowCap i [x]).IsSingle := by
  obtain ⟨hgroups, horder, hlist⟩ := ungrouped_of_isAggregate (d := d) h
  refine ⟨⟨x, rfl, hx⟩, hgroups, horder, if_neg hlist, ?_⟩
  simp [planWith, hlist]

/-- The group that is projected is the one that the plan groups and sorts by. -/
theorem isGrouped_planWith {group : Field} (h : i.action = .group)
    (hgroup : groupField d = .ok group) :
    (d.planWith rowCap i (groupProjection d group i.fields)).IsGrouped d := by
  have hfound : groupField? d = some group := groupField_eq_ok_iff.1 hgroup
  have hcolumns : groupColumns d i.action = [d.column group] := by
    rw [h, groupColumns, hfound]
    rfl
  refine ⟨⟨_, _, rfl, isColumn_of_mem (mem_of_groupField? hfound), hcolumns, ?_, ?_⟩, ?_⟩
  · rw [h] at hcolumns
    simp [planWith, h, order, hcolumns]
  · intro x hx
    change x ∈ rowCount ::
      (d.amountField?.toList.map (fun f => ⟨total (d.column f), "total_sum"⟩) ++
        (furtherTotals d group i.fields).map fun f => ⟨total (d.column f), f.key⟩) at hx
    simp only [List.mem_cons, List.mem_append, List.mem_map] at hx
    rcases hx with rfl | ⟨f, -, rfl⟩ | ⟨f, -, rfl⟩
    · exact .inl rfl
    · exact .inr ⟨d.column f, rfl⟩
    · exact .inr ⟨d.column f, rfl⟩
  · simp [planWith, h]

theorem isListing_planWith (h : i.action = .list) :
    (d.planWith rowCap i ((listFields d i.fields).map fun f => ⟨d.column f, f.key⟩)).IsListing
      d rowCap := by
  refine ⟨fun x hx => ?_, ?_, ?_⟩
  · obtain ⟨f, hf, rfl⟩ := List.mem_map.1 hx
    exact isColumn_of_mem (mem_of_mem_listFields hf)
  · simp [planWith, h, groupColumns]
  · simp [planWith, h]

/-- A projection makes a plan of the shape of its action. -/
theorem hasShape_planWith (rowCap : Nat) {shown : List Projection}
    (h : projection d i = .ok shown) :
    (d.planWith rowCap i shown).HasShape d rowCap i.action := by
  unfold projection at h
  cases haction : i.action with
  | count =>
    simp only [haction] at h
    obtain rfl := Except.ok.inj h
    exact isSingle_planWith (by rw [haction]; rfl) isAggregate_rowCount
  | sum =>
    simp only [haction] at h
    obtain ⟨column, -, h⟩ := bind_eq_ok.1 h
    obtain rfl := Except.ok.inj h
    exact isSingle_planWith (by rw [haction]; rfl) (isAggregate_total column)
  | average =>
    simp only [haction] at h
    obtain ⟨column, -, h⟩ := bind_eq_ok.1 h
    obtain rfl := Except.ok.inj h
    refine isSingle_planWith (by rw [haction]; rfl) ?_
    rw [String.append_assoc]
    exact isAggregate_append (by decide) _
  | group =>
    simp only [haction] at h
    obtain ⟨group, hgroup, h⟩ := bind_eq_ok.1 h
    obtain rfl := Except.ok.inj h
    exact isGrouped_planWith haction hgroup
  | list =>
    simp only [haction] at h
    obtain rfl := Except.ok.inj h
    exact isListing_planWith haction

end Domain

end CivicReport
