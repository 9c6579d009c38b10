import CivicReport.Proofs.Query.Conditions
import CivicReport.Proofs.Query.Scan

/-!
Placeholders of a statement. Conditions have all of them, and the rest of a statement has no dollar
signs if the names in the domain have none. Main statement: the numbers in a statement run through
the parameters in order, and each stands there as often as its condition has columns.
-/
namespace CivicReport

namespace ConditionShape

/-- How many columns are compared with the value. -/
def uses : ConditionShape → Nat
  | compare _ _ _ => 1
  | contains _ => 1
  | anyContains columns => columns.length

def IsDollarless : ConditionShape → Prop
  | compare column _ cast => Dollarless column ∧ ∀ type ∈ cast, Dollarless type
  | contains column => Dollarless column
  | anyContains columns => ∀ column ∈ columns, Dollarless column

theorem placeholders_matchText {column : String} (h : Dollarless column) (n : Nat) :
    placeholders (matchText (Plan.placeholder n) column).toList = [n] := by
  have hbefore : Dollarless (column ++ " ILIKE ") := dollarless_append.2 ⟨h, by decide⟩
  rw [matchText, String.toList_append, placeholders_append_of_not_mem hbefore,
    placeholders_placeholder]

theorem placeholders_compare {column : String} (h : Dollarless column) (op : Comparison)
    {rest : List Char} (hends : EndsNumber rest) (hrest : '$' ∉ rest) (n : Nat) :
    placeholders ((column ++ " " ++ op.symbol ++ " " ++ Plan.placeholder n).toList ++ rest) =
      [n] := by
  have hop : Dollarless op.symbol := by cases op <;> decide
  have hbefore : Dollarless (column ++ " " ++ op.symbol ++ " ") := by
    simp only [dollarless_append]
    exact ⟨⟨⟨h, by decide⟩, hop⟩, by decide⟩
  rw [placeholders_append _ hends, String.toList_append, placeholders_append_of_not_mem hbefore,
    placeholders_placeholder, placeholders_eq_nil hrest, List.append_nil]

/-- A condition repeats its placeholder once for each of its columns. -/
theorem placeholders_write {shape : ConditionShape} (h : shape.IsDollarless) (n : Nat) :
    placeholders (shape.write (Plan.placeholder n)).toList = List.replicate shape.uses n := by
  cases shape with
  | compare column op cast =>
    cases cast with
    | none =>
      have hscan := placeholders_compare h.1 op endsNumber_nil List.not_mem_nil n
      rwa [List.append_nil] at hscan
    | some type =>
      have hends : EndsNumber ("::" ++ type).toList := by
        rw [String.toList_append]
        exact endsNumber_cons (by decide) (':' :: type.toList)
      have hnone : Dollarless ("::" ++ type) := dollarless_append.2 ⟨by decide, h.2 type rfl⟩
      have hscan := placeholders_compare h.1 op hends hnone n
      rwa [← String.toList_append, ← String.append_assoc] at hscan
  | contains column => exact placeholders_matchText h n
  | anyContains columns =>
    have hparts : ((columns.map (matchText (Plan.placeholder n))).flatMap fun s =>
        placeholders s.toList) = List.replicate columns.length n := by
      induction columns with
      | nil => rfl
      | cons column rest ih =>
        rw [List.map_cons, List.flatMap_cons, placeholders_matchText (h column List.mem_cons_self),
          ih fun c hc => h c (List.mem_cons_of_mem _ hc)]
        rfl
    have hopen : Dollarless "(" := by decide
    have hclose : Dollarless ")" := by decide
    have hends : EndsNumber ")".toList := endsNumber_cons (by decide : isAsciiDigit ')' = false) []
    rw [write, String.toList_append, placeholders_append _ hends, String.toList_append,
      placeholders_append_of_not_mem hopen,
      placeholders_joinWith (rfl : " OR ".toList = ' ' :: "OR ".toList) (by decide), hparts,
      placeholders_eq_nil hclose, List.append_nil]
    rfl

end ConditionShape

namespace Plan

/-- No part of the plan has a dollar sign in it. -/
structure IsDollarless (p : Plan) : Prop where
  table : Dollarless p.table
  shortName : Dollarless p.shortName
  joins : ∀ j ∈ p.joins, Dollarless j.source ∧ Dollarless j.shortName ∧ Dollarless j.on
  projection : ∀ x ∈ p.projection, Dollarless x.expr ∧ Dollarless x.name
  conditions : ∀ c ∈ p.conditions, c.shape.IsDollarless
  groupBy : ∀ column ∈ p.groupBy, Dollarless column
  orderBy : ∀ o ∈ p.orderBy, Dollarless o.expr

theorem placeholders_conditionTexts {shapes : List ConditionShape}
    (h : ∀ shape ∈ shapes, shape.IsDollarless) (n : Nat) :
    (conditionTexts n shapes).flatMap (fun s => placeholders s.toList) =
      (shapes.zipIdx n).flatMap fun e => List.replicate e.1.uses e.2 := by
  induction shapes generalizing n with
  | nil => rfl
  | cons shape rest ih =>
    rw [conditionTexts, List.flatMap_cons, List.zipIdx_cons, List.flatMap_cons,
      ConditionShape.placeholders_write (h shape List.mem_cons_self),
      ih fun s hs => h s (List.mem_cons_of_mem _ hs)]

/-- The text up to the conditions. -/
def beforeConditions (p : Plan) : String :=
  "SELECT " ++ (if p.distinct then "DISTINCT " else "") ++
    Text.joinWith ", " (p.projection.map fun x => x.expr ++ " AS " ++ x.name) ++
    " FROM " ++ p.table ++ " AS " ++ p.shortName ++ Text.joinWith "" (p.joins.map joinText)

/-- The text behind the conditions. -/
def afterConditions (p : Plan) : String :=
  clause "GROUP BY" ", " p.groupBy ++ clause "ORDER BY" ", " (p.orderBy.map orderText) ++
    (match p.rowCap with
      | some cap => " LIMIT " ++ natText cap
      | none => "")

theorem text_eq (p : Plan) :
    p.text = p.beforeConditions ++
      (clause "WHERE" " AND " (conditionTexts 1 (p.conditions.map (·.shape))) ++
        p.afterConditions) := by
  unfold text beforeConditions afterConditions
  cases p.rowCap <;> simp only [String.append_assoc]

theorem dollarless_beforeConditions {p : Plan} (h : p.IsDollarless) :
    Dollarless p.beforeConditions := by
  have hdistinct : Dollarless (if p.distinct then "DISTINCT " else "") := by split <;> decide
  have hprojection : ∀ s ∈ p.projection.map fun x => x.expr ++ " AS " ++ x.name,
      Dollarless s := by
    intro s hs
    obtain ⟨x, hx, rfl⟩ := List.mem_map.1 hs
    obtain ⟨hexpr, hname⟩ := h.projection x hx
    exact dollarless_append.2 ⟨dollarless_append.2 ⟨hexpr, by decide⟩, hname⟩
  have hjoins : ∀ s ∈ p.joins.map joinText, Dollarless s := by
    intro s hs
    obtain ⟨j, hj, rfl⟩ := List.mem_map.1 hs
    obtain ⟨hsource, hshort, hon⟩ := h.joins j hj
    have hkind : Dollarless j.kind.keyword := by cases j.kind <;> decide
    simp only [joinText, dollarless_append]
    exact ⟨⟨⟨⟨⟨⟨⟨by decide, hkind⟩, by decide⟩, hsource⟩, by decide⟩, hshort⟩, by decide⟩, hon⟩
  unfold beforeConditions
  simp only [dollarless_append]
  exact ⟨⟨⟨⟨⟨⟨⟨by decide, hdistinct⟩, dollarless_joinWith (by decide) hprojection⟩, by decide⟩,
    h.table⟩, by decide⟩, h.shortName⟩, dollarless_joinWith (by decide) hjoins⟩

theorem dollarless_afterConditions {p : Plan} (h : p.IsDollarless) :
    Dollarless p.afterConditions := by
  have horder : ∀ s ∈ p.orderBy.map orderText, Dollarless s := by
    intro s hs
    obtain ⟨o, ho, rfl⟩ := List.mem_map.1 hs
    have hdirection : Dollarless (if o.descending then " DESC" else " ASC") := by split <;> decide
    exact dollarless_append.2 ⟨h.orderBy o ho, hdirection⟩
  unfold afterConditions
  simp only [dollarless_append]
  refine ⟨⟨dollarless_clause (by decide) (by decide) h.groupBy,
    dollarless_clause (by decide) (by decide) horder⟩, ?_⟩
  split
  · exact dollarless_append.2 ⟨by decide, dollarless_natText _⟩
  · decide

theorem endsNumber_clause (keyword separator : String) (parts : List String) :
    EndsNumber (clause keyword separator parts).toList := by
  unfold clause
  split
  · exact endsNumber_nil
  · simp only [String.toList_append, List.append_assoc]
    exact endsNumber_cons (by decide) _

theorem endsNumber_afterConditions (p : Plan) : EndsNumber p.afterConditions.toList := by
  unfold afterConditions
  simp only [String.toList_append]
  refine endsNumber_append (endsNumber_append (endsNumber_clause _ _ _) (endsNumber_clause _ _ _)) ?_
  split
  · rw [String.toList_append]
    exact endsNumber_cons (by decide) _
  · exact endsNumber_nil

/-- The placeholders are numbered by the conditions, in order. -/
theorem placeholders_text {p : Plan} (h : p.IsDollarless) :
    placeholders p.text.toList =
      (p.conditions.zipIdx 1).flatMap fun e => List.replicate e.1.shape.uses e.2 := by
  have hshapes : ∀ shape ∈ p.conditions.map (·.shape), shape.IsDollarless := by
    intro shape hs
    obtain ⟨c, hc, rfl⟩ := List.mem_map.1 hs
    exact h.conditions c hc
  have hclause : placeholders
      (clause "WHERE" " AND " (conditionTexts 1 (p.conditions.map (·.shape)))).toList =
        (conditionTexts 1 (p.conditions.map (·.shape))).flatMap fun s => placeholders s.toList := by
    unfold clause
    split
    · next hnil => rw [List.isEmpty_iff.1 hnil]; rfl
    · have hkeyword : Dollarless (" " ++ "WHERE" ++ " ") := by decide
      rw [String.toList_append, placeholders_append_of_not_mem hkeyword,
        placeholders_joinWith (rfl : " AND ".toList = ' ' :: "AND ".toList) (by decide)]
  rw [text_eq, String.toList_append,
    placeholders_append_of_not_mem (dollarless_beforeConditions h), String.toList_append,
    placeholders_append _ (endsNumber_afterConditions p), hclause,
    placeholders_eq_nil (dollarless_afterConditions h), List.append_nil,
    placeholders_conditionTexts hshapes, List.zipIdx_map, List.flatMap_map]
  rfl

end Plan

/-! Plans of domains. -/

namespace Layout

/-- No part of the layout that gets into a query has a dollar sign in it. -/
structure IsDollarless (l : Layout) : Prop where
  shortName : Dollarless l.shortName
  columns : ∀ e ∈ l.columns, Dollarless e.2
  joins : ∀ j ∈ l.joins, Dollarless j.source ∧ Dollarless j.shortName ∧ Dollarless j.on

theorem isDollarless_of_no_columns {l : Layout} (h : Dollarless l.shortName)
    (hcolumns : l.columns = []) (hjoins : l.joins = []) : l.IsDollarless := by
  refine ⟨h, ?_, ?_⟩
  · rw [hcolumns]
    exact List.forall_mem_nil _
  · rw [hjoins]
    exact List.forall_mem_nil _

theorem isDollarless_projects : projects.IsDollarless := by
  refine ⟨dollarless_ofList (by decide), ?_, List.forall_mem_nil _⟩
  simp only [projects, List.forall_mem_singleton]
  exact dollarless_ofList (by decide)

theorem isDollarless_budgetItems : budgetItems.IsDollarless := by
  refine ⟨dollarless_ofList (by decide), ?_, List.forall_mem_nil _⟩
  simp only [budgetItems, List.forall_mem_singleton]
  exact dollarless_ofList (by decide)

theorem isDollarless_comprehensive : comprehensive.IsDollarless := by
  refine ⟨dollarless_ofList (by decide), ?_, ?_⟩
  · simp only [comprehensive, List.forall_mem_cons]
    exact ⟨dollarless_ofList (by decide), dollarless_ofList (by decide),
      dollarless_ofList (by decide), dollarless_ofList (by decide), List.forall_mem_nil _⟩
  · simp only [comprehensive, List.forall_mem_cons, dollarless_append]
    refine ⟨⟨⟨⟨?_, ?_⟩, ?_⟩, ?_, ?_⟩, ⟨?_, ?_, ?_⟩, ⟨⟨?_, ?_⟩, ?_, ?_⟩, List.forall_mem_nil _⟩
    all_goals exact dollarless_ofList (by decide)

theorem isDollarless_of (domain : String) : (Layout.of domain).IsDollarless := by
  have hcatalogue : ∀ e ∈ catalogue, e.2.IsDollarless := by
    simp only [catalogue, List.forall_mem_cons]
    exact ⟨isDollarless_projects,
      isDollarless_of_no_columns (dollarless_ofList (by decide)) rfl rfl,
      isDollarless_budgetItems,
      isDollarless_of_no_columns (dollarless_ofList (by decide)) rfl rfl,
      isDollarless_comprehensive, List.forall_mem_nil _⟩
  unfold Layout.of known?
  cases hfind : catalogue.find? (·.1 == domain) with
  | none => exact isDollarless_of_no_columns (dollarless_ofList (by decide)) rfl rfl
  | some e => exact hcatalogue e (List.mem_of_find?_eq_some hfind)

end Layout

namespace Domain

open Compilation

variable {d : Domain} {f : Field} {i : Intent}

/-- The names that a domain gives to queries have no dollar sign in them. -/
structure IsDollarless (d : Domain) : Prop where
  table : Dollarless d.table
  keys : ∀ f ∈ d.fields, Dollarless f.key

theorem mem_of_field? {key : String} (h : d.field? key = some f) : f ∈ d.fields :=
  List.mem_of_find?_eq_some h

theorem dollarless_column (h : d.IsDollarless) (hf : f ∈ d.fields) : Dollarless (d.column f) := by
  obtain ⟨hshort, hcolumns, -⟩ := Layout.isDollarless_of d.key
  unfold column
  cases hexpr : d.layout.column? f.key with
  | some expr =>
    obtain ⟨e, he, rfl⟩ := Option.map_eq_some_iff.1 hexpr
    exact hcolumns e (List.mem_of_find?_eq_some he)
  | none =>
    cases hyear : d.yearSource? f with
    | none =>
      simp only [dollarless_append]
      exact ⟨⟨hshort, by decide⟩, h.keys f hf⟩
    | some source =>
      have hsource : source ∈ d.fields := by
        obtain ⟨hbind, -⟩ := Option.filter_eq_some_iff.1 hyear
        obtain ⟨key, -, hkey⟩ := Option.bind_eq_some_iff.1 hbind
        exact mem_of_field? hkey
      simp only [dollarless_append]
      exact ⟨⟨⟨⟨by decide, hshort⟩, by decide⟩, h.keys source hsource⟩, by decide⟩

theorem mem_of_amountField? (h : d.amountField? = some f) : f ∈ d.fields := by
  rcases Option.or_eq_some_iff.1 h with h | ⟨-, h⟩
  · exact List.mem_of_find?_eq_some h
  · exact List.mem_of_find?_eq_some h

theorem mem_of_groupField? (h : groupField? d = some f) : f ∈ d.fields := by
  rcases Option.or_eq_some_iff.1 h with h | ⟨-, h⟩
  · obtain ⟨key, -, hkey⟩ := Option.bind_eq_some_iff.1 h
    exact mem_of_field? hkey
  · exact List.mem_of_find?_eq_some h

theorem mem_of_mem_filterMap_field? {keys : List String} (h : f ∈ keys.filterMap d.field?) :
    f ∈ d.fields := by
  obtain ⟨key, -, hkey⟩ := List.mem_filterMap.1 h
  exact mem_of_field? hkey

theorem mem_of_mem_listFields {wanted : List String} (h : f ∈ listFields d wanted) :
    f ∈ d.fields := by
  unfold listFields at h
  dsimp only at h
  split at h
  · exact mem_of_mem_filterMap_field? h
  · exact mem_of_mem_filterMap_field? (List.mem_eraseDups.1 h)

theorem mem_of_mem_searchFields (h : f ∈ searchFields d) : f ∈ d.fields := by
  unfold searchFields at h
  split at h
  · exact List.mem_of_mem_filter h
  · exact mem_of_mem_filterMap_field? h

theorem isDollarless_of_shapeOf? (h : d.IsDollarless) {key : String} {shape : ConditionShape}
    (hshape : shapeOf? d key = some shape) : shape.IsDollarless := by
  have hcompare (op : Comparison) (f : Field) (hf : f ∈ d.fields) :
      (compareShape d op f).IsDollarless := by
    refine ⟨dollarless_column h hf, fun type ht => ?_⟩
    split at ht
    · cases ht
      decide
    · contradiction
  unfold shapeOf? at hshape
  cases hread : FilterKey.read key with
  | search =>
    simp only [hread] at hshape
    cases hshape
    intro column hc
    obtain ⟨f, hf, rfl⟩ := List.mem_map.1 hc
    exact dollarless_column h (mem_of_mem_searchFields hf)
  | equals base =>
    simp only [hread] at hshape
    obtain ⟨f, hf, rfl⟩ := Option.map_eq_some_iff.1 hshape
    unfold equalsShape
    split
    · exact dollarless_column h (mem_of_field? hf)
    · exact hcompare .equal f (mem_of_field? hf)
  | above base =>
    simp only [hread] at hshape
    obtain ⟨f, hf, rfl⟩ := Option.map_eq_some_iff.1 hshape
    exact hcompare .greater f (mem_of_field? hf)
  | below base =>
    simp only [hread] at hshape
    obtain ⟨f, hf, rfl⟩ := Option.map_eq_some_iff.1 hshape
    exact hcompare .less f (mem_of_field? hf)

theorem dollarless_total {column : String} (h : Dollarless column) :
    Dollarless (total column) := by
  unfold total
  simp only [dollarless_append]
  exact ⟨⟨by decide, h⟩, by decide⟩

theorem dollarless_amountColumn (h : d.IsDollarless) {column : String}
    (hcolumn : amountColumn d = .ok column) : Dollarless column := by
  unfold amountColumn at hcolumn
  cases hamount : d.amountField? with
  | none => simp [hamount] at hcolumn
  | some f =>
    simp only [hamount] at hcolumn
    cases hcolumn
    exact dollarless_column h (mem_of_amountField? hamount)

theorem groupField_eq_ok_iff {group : Field} :
    groupField d = .ok group ↔ groupField? d = some group := by
  unfold groupField
  cases groupField? d <;> simp

theorem mem_of_groupField {group : Field} (hgroup : groupField d = .ok group) :
    group ∈ d.fields :=
  mem_of_groupField? (groupField_eq_ok_iff.1 hgroup)

theorem dollarless_groupProjection (h : d.IsDollarless) {group : Field} (hgroup : group ∈ d.fields)
    (wanted : List String) :
    ∀ x ∈ groupProjection d group wanted, Dollarless x.expr ∧ Dollarless x.name := by
  have htotal (f : Field) (hf : f ∈ d.fields) : Dollarless (total (d.column f)) :=
    dollarless_total (dollarless_column h hf)
  intro x hx
  unfold groupProjection at hx
  simp only [List.mem_append, List.mem_cons, List.not_mem_nil, or_false, List.mem_map,
    Option.mem_toList] at hx
  rcases hx with ((rfl | rfl) | ⟨f, hf, rfl⟩) | ⟨f, hf, rfl⟩
  · exact ⟨dollarless_column h hgroup, h.keys group hgroup⟩
  · exact ⟨dollarless_ofList (by decide), dollarless_ofList (by decide)⟩
  · exact ⟨htotal f (mem_of_amountField? hf), dollarless_ofList (by decide)⟩
  · have hmem := mem_of_mem_filterMap_field? (List.mem_of_mem_filter hf)
    exact ⟨htotal f hmem, h.keys f hmem⟩

theorem dollarless_projection (h : d.IsDollarless) {shown : List Projection}
    (hshown : projection d i = .ok shown) :
    ∀ x ∈ shown, Dollarless x.expr ∧ Dollarless x.name := by
  unfold projection at hshown
  cases haction : i.action with
  | count =>
    simp only [haction] at hshown
    cases hshown
    exact List.forall_mem_singleton.2 ⟨dollarless_ofList (by decide), dollarless_ofList (by decide)⟩
  | sum =>
    simp only [haction] at hshown
    obtain ⟨column, hcolumn, hsum⟩ := bind_eq_ok.1 hshown
    cases hsum
    exact List.forall_mem_singleton.2
      ⟨dollarless_total (dollarless_amountColumn h hcolumn), dollarless_ofList (by decide)⟩
  | average =>
    simp only [haction] at hshown
    obtain ⟨column, hcolumn, haverage⟩ := bind_eq_ok.1 hshown
    cases haverage
    refine List.forall_mem_singleton.2 ⟨?_, dollarless_ofList (by decide)⟩
    simp only [dollarless_append]
    exact ⟨⟨by decide, dollarless_amountColumn h hcolumn⟩, by decide⟩
  | group =>
    simp only [haction] at hshown
    obtain ⟨group, hgroup, hgroups⟩ := bind_eq_ok.1 hshown
    cases hgroups
    exact dollarless_groupProjection h (mem_of_groupField hgroup) i.fields
  | list =>
    simp only [haction] at hshown
    cases hshown
    intro x hx
    obtain ⟨f, hf, rfl⟩ := List.mem_map.1 hx
    have hmem := mem_of_mem_listFields hf
    exact ⟨dollarless_column h hmem, h.keys f hmem⟩

theorem dollarless_groupColumns (h : d.IsDollarless) (action : Action) :
    ∀ column ∈ groupColumns d action, Dollarless column := by
  intro column hc
  cases action with
  | group =>
    obtain ⟨f, hf, rfl⟩ := List.mem_map.1 hc
    exact dollarless_column h (mem_of_groupField? (Option.mem_toList.1 hf))
  | count | sum | average | list => contradiction

theorem dollarless_order (h : d.IsDollarless) (action : Action) :
    ∀ o ∈ order d action, Dollarless o.expr := by
  have hgroups : ∀ o ∈ (groupColumns d action).map fun column => (⟨column, false⟩ : SortTerm),
      Dollarless o.expr := by
    intro o ho
    obtain ⟨column, hc, rfl⟩ := List.mem_map.1 ho
    exact dollarless_groupColumns h action column hc
  cases action with
  | count | sum | average | group => exact hgroups
  | list =>
    intro o ho
    obtain ⟨e, -, he⟩ := List.mem_filterMap.1 ho
    obtain ⟨f, hf, rfl⟩ := Option.map_eq_some_iff.1 he
    exact dollarless_column h (mem_of_field? hf)

theorem isDollarless_planWith (h : d.IsDollarless) (rowCap : Nat) {shown : List Projection}
    (hshown : projection d i = .ok shown) : (d.planWith rowCap i shown).IsDollarless := by
  have hlayout := Layout.isDollarless_of d.key
  refine ⟨h.table, hlayout.shortName, hlayout.joins, dollarless_projection h hshown, ?_,
    dollarless_groupColumns h i.action, dollarless_order h i.action⟩
  intro c hc
  obtain ⟨e, -, he⟩ := List.mem_filterMap.1 hc
  exact isDollarless_of_shapeOf? h (shape_of_condition? he)

/-- A search without columns gives no condition, so each value is used. -/
theorem uses_pos_of_condition? {key : String} {v : Scalar} {c : Condition}
    (h : condition? d key v = some c) : 1 ≤ c.shape.uses := by
  have hcompare {op : Comparison} {f : Field} (hc : compare? d f op v = some c) :
      1 ≤ c.shape.uses := by
    rw [shape_of_compare? hc]
    exact le_refl 1
  rcases condition?_cases h with ⟨-, hc⟩ | ⟨base, f, -, -, hc⟩ | ⟨base, f, -, -, hc⟩ |
    ⟨base, f, -, -, hc⟩
  · unfold search? at hc
    dsimp only at hc
    split at hc
    · contradiction
    · next hsome =>
      cases hc
      apply List.length_pos_iff.2
      intro hnil
      simp [hnil] at hsome
  · unfold equals? at hc
    split at hc
    · cases hc
      exact le_refl 1
    · exact hcompare hc
  · exact hcompare hc
  · exact hcompare hc

/-- Scanning a statement finds the numbers from one on, in order, each as often as its condition
has columns and none left out; the parameter of that number is the value of the condition. -/
theorem placeholders_statement (h : d.IsDollarless) {rowCap : Nat} {p : Plan}
    (hplan : d.plan rowCap i = .ok p) :
    placeholders p.statement.text.toList =
        (p.conditions.zipIdx 1).flatMap (fun e => List.replicate e.1.shape.uses e.2) ∧
      (∀ c ∈ p.conditions, 1 ≤ c.shape.uses) ∧
      p.statement.parameters = p.conditions.map (·.value) := by
  obtain ⟨shown, hshown, rfl⟩ := of_plan_eq_ok hplan
  refine ⟨Plan.placeholders_text (isDollarless_planWith h rowCap hshown), ?_, rfl⟩
  intro c hc
  obtain ⟨e, -, he⟩ := List.mem_filterMap.1 hc
  exact uses_pos_of_condition? he

theorem placeholders_statement_listing :
    ∃ p, Registry.transactions.plan 100 (listing "$9" "9" "$1$2") = .ok p ∧
      Registry.transactions.IsDollarless ∧
      placeholders p.statement.text.toList = [1, 2, 2, 2, 2, 3] := by
  have hdollarless : Registry.transactions.IsDollarless :=
    ⟨dollarless_ofList (by decide), by decide⟩
  have hnumbers : (Registry.transactions.plan 100 (listing "$9" "9" "$1$2")).map (fun p =>
      (p.conditions.zipIdx 1).flatMap fun e => List.replicate e.1.shape.uses e.2) =
        .ok [1, 2, 2, 2, 2, 3] := by
    decide
  cases hplan : Registry.transactions.plan 100 (listing "$9" "9" "$1$2") with
  | error fault =>
    rw [hplan] at hnumbers
    contradiction
  | ok p =>
    rw [hplan] at hnumbers
    have hscan := (placeholders_statement hdollarless hplan).1
    exact ⟨p, rfl, hdollarless, hscan.trans (Except.ok.inj hnumbers)⟩

end Domain

end CivicReport
