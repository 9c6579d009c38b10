import CivicReport.Query.Compilation
import CivicReport.Registry.Municipal
import CivicReport.Proofs.Filters.Keys

/-!
Conditions and the filters they come from. The key of a filter tells the shape of its condition;
the value only decides whether there is one. Main statement: intents that ask for the same report
and keep the same filters have statements with the same text, whatever values they compare with.
-/
namespace CivicReport

namespace Compilation

variable {d : Domain} {f : Field} {op : Comparison} {key : String} {v : Scalar} {c : Condition}

def compareShape (d : Domain) (op : Comparison) (f : Field) : ConditionShape :=
  .compare (d.column f) op (if f.kind = .date then some "date" else none)

def equalsShape (d : Domain) (f : Field) : ConditionShape :=
  if f.kind = .text ∧ d.layout.matchesParts f.key then .contains (d.column f)
  else compareShape d .equal f

def searchShape (d : Domain) : ConditionShape := .anyContains ((searchFields d).map d.column)

/-- The shape that every condition for a key has. -/
def shapeOf? (d : Domain) (key : String) : Option ConditionShape :=
  match FilterKey.read key with
  | .search => some (searchShape d)
  | .equals base => (d.field? base).map (equalsShape d)
  | .above base => (d.field? base).map (compareShape d .greater)
  | .below base => (d.field? base).map (compareShape d .less)

theorem shape_of_compare? (h : compare? d f op v = some c) : c.shape = compareShape d op f := by
  obtain ⟨value, -, rfl⟩ := Option.map_eq_some_iff.1 h
  rfl

theorem shape_of_equals? (h : equals? d f v = some c) : c.shape = equalsShape d f := by
  unfold equals? at h
  unfold equalsShape
  split at h
  · next hparts =>
    rw [if_pos hparts]
    cases h
    rfl
  · next hwhole =>
    rw [if_neg hwhole]
    exact shape_of_compare? h

theorem shape_of_search? (h : search? d v = some c) : c.shape = searchShape d := by
  simp only [search?] at h
  split at h
  · contradiction
  · cases h
    rfl

/-- Where a condition comes from: the search, or a field that the key names. -/
theorem condition?_cases (h : condition? d key v = some c) :
    (FilterKey.read key = .search ∧ search? d v = some c) ∨
      (∃ base f, FilterKey.read key = .equals base ∧ d.field? base = some f ∧
        equals? d f v = some c) ∨
      (∃ base f, FilterKey.read key = .above base ∧ d.field? base = some f ∧
        compare? d f .greater v = some c) ∨
      ∃ base f, FilterKey.read key = .below base ∧ d.field? base = some f ∧
        compare? d f .less v = some c := by
  unfold condition? at h
  split at h
  · cases hread : FilterKey.read key with
    | search =>
      simp only [hread] at h
      exact .inl ⟨rfl, h⟩
    | equals base =>
      simp only [hread] at h
      obtain ⟨f, hf, hc⟩ := Option.bind_eq_some_iff.1 h
      exact .inr (.inl ⟨base, f, rfl, hf, hc⟩)
    | above base =>
      simp only [hread] at h
      obtain ⟨f, hf, hc⟩ := Option.bind_eq_some_iff.1 h
      exact .inr (.inr (.inl ⟨base, f, rfl, hf, hc⟩))
    | below base =>
      simp only [hread] at h
      obtain ⟨f, hf, hc⟩ := Option.bind_eq_some_iff.1 h
      exact .inr (.inr (.inr ⟨base, f, rfl, hf, hc⟩))
  · contradiction

/-- Values have no part in the shape of a condition. -/
theorem shape_of_condition? (h : condition? d key v = some c) : shapeOf? d key = some c.shape := by
  rcases condition?_cases h with ⟨hread, hc⟩ | ⟨base, f, hread, hf, hc⟩ |
    ⟨base, f, hread, hf, hc⟩ | ⟨base, f, hread, hf, hc⟩
  · simp only [shapeOf?, hread, shape_of_search? hc]
  · simp only [shapeOf?, hread, hf, Option.map_some, shape_of_equals? hc]
  · simp only [shapeOf?, hread, hf, Option.map_some, shape_of_compare? hc]
  · simp only [shapeOf?, hread, hf, Option.map_some, shape_of_compare? hc]

/-- Whether the filter under a key becomes a condition. -/
def keeps (d : Domain) (filters : Filters) (key : String) : Bool :=
  ((filters.get? key).bind (condition? d key)).isSome

/-- The shapes of all conditions follow from the keys and from which of them are kept. -/
theorem shapes_conditions (d : Domain) (filters : Filters) :
    (conditions d filters).map (·.shape) =
      (filters.keys.filter (keeps d filters)).filterMap (shapeOf? d) := by
  rw [conditions, Filters.keys, List.map_filterMap, List.filter_map, List.filterMap_map,
    List.filterMap_filter]
  apply List.filterMap_congr
  rintro ⟨key, v⟩ he
  have hkeeps : keeps d filters key = (condition? d key v).isSome := by
    rw [keeps, Filters.get?_of_mem he]
    rfl
  simp only [Function.comp_apply, hkeeps]
  cases hc : condition? d key v with
  | none => rfl
  | some c => simp [shape_of_condition? hc]

end Compilation

namespace Domain

open Compilation

variable {d : Domain}

/-- The plan of an intent of this domain, once its projection is known. -/
def planWith (d : Domain) (rowCap : Nat) (i : Intent) (projection : List Projection) : Plan where
  table := d.table
  shortName := d.layout.shortName
  joins := d.layout.joins
  projection := projection
  conditions := conditions d i.filters
  groupBy := groupColumns d i.action
  orderBy := order d i.action
  rowCap := if i.action = .list then some rowCap else none
  distinct := d.layout.distinct && i.action == .list

/-- A plan fails only for the domain or the projection. -/
theorem plan_eq_map {i : Intent} (h : i.domain = d.key) (rowCap : Nat) :
    d.plan rowCap i = (projection d i).map (d.planWith rowCap i) := by
  unfold plan
  rw [if_neg (not_not_intro h)]
  cases projection d i <;> rfl

theorem of_plan_eq_ok {i : Intent} {rowCap : Nat} {p : Plan} (h : d.plan rowCap i = .ok p) :
    ∃ shown, projection d i = .ok shown ∧ d.planWith rowCap i shown = p := by
  unfold plan at h
  split at h
  · contradiction
  · obtain ⟨shown, hshown, hp⟩ := bind_eq_ok.1 h
    exact ⟨shown, hshown, Except.ok.inj hp⟩

/-- The columns of a plan come from the action and the fields. -/
theorem projection_congr {i j : Intent} (haction : i.action = j.action)
    (hfields : i.fields = j.fields) : projection d i = projection d j := by
  unfold projection
  rw [haction, hfields]

theorem text_planWith_congr {i j : Intent} (rowCap : Nat) (shown : List Projection)
    (haction : i.action = j.action)
    (hshapes : (conditions d i.filters).map (·.shape) = (conditions d j.filters).map (·.shape)) :
    (d.planWith rowCap i shown).text = (d.planWith rowCap j shown).text := by
  unfold Plan.text planWith
  dsimp only
  rw [haction, hshapes]

/-- Values of filters never reach the text of a statement. Two intents of a domain with the same
action, the same fields and the same filter keys, of which the same are kept, both fail alike or
have the same text and as many parameters. -/
theorem text_plan_eq {i j : Intent} (rowCap : Nat) (hi : i.domain = d.key) (hj : j.domain = d.key)
    (haction : i.action = j.action) (hfields : i.fields = j.fields)
    (hkeys : ∀ key, key ∈ i.filters.keys ↔ key ∈ j.filters.keys)
    (hkeeps : ∀ key ∈ i.filters.keys, keeps d i.filters key = keeps d j.filters key) :
    (d.plan rowCap i).map (fun p => (p.statement.text, p.statement.parameters.length)) =
      (d.plan rowCap j).map (fun p => (p.statement.text, p.statement.parameters.length)) := by
  have hkept : i.filters.keys.filter (keeps d i.filters) =
      j.filters.keys.filter (keeps d j.filters) := by
    rw [← Filters.keys_eq_of_mem_iff hkeys]
    exact List.filter_congr hkeeps
  have hshapes : (conditions d i.filters).map (·.shape) = (conditions d j.filters).map (·.shape) := by
    rw [shapes_conditions, shapes_conditions, hkept]
  have hlength : (conditions d i.filters).length = (conditions d j.filters).length := by
    simpa using congrArg List.length hshapes
  rw [plan_eq_map hi, plan_eq_map hj, projection_congr haction hfields]
  cases projection d j with
  | error fault => rfl
  | ok shown =>
    have htext := text_planWith_congr rowCap shown haction hshapes
    have hparameters : (d.planWith rowCap i shown).parameters.length =
        (d.planWith rowCap j shown).parameters.length := by
      simpa [Plan.parameters, planWith] using hlength
    simp only [Except.map, Plan.statement, htext, hparameters]

/-- A list of transactions with a status, from an amount on, that mention a text. -/
def listing (status amount wanted : String) : Intent where
  domain := "transactions"
  action := .list
  filters := ((Filters.empty.insert "status" (.text status)).insert "amount_gt" (.text amount)).insert
    FilterKey.searchKey (.text wanted)
  fields := ["supplier", "amount"]
  confidence := 1.0
  source := .caller

theorem text_plan_eq_hostile :
    (∀ key ∈ (listing "שולם" "100" "גן").filters.keys,
      keeps Registry.transactions (listing "שולם" "100" "גן").filters key =
        keeps Registry.transactions (listing "'; DROP TABLE x --" "1e3" "$9 OR 1=1").filters key) ∧
    (Registry.transactions.plan 100 (listing "שולם" "100" "גן")).map
        (fun p => (p.statement.text, p.statement.parameters.length)) =
      (Registry.transactions.plan 100 (listing "'; DROP TABLE x --" "1e3" "$9 OR 1=1")).map
        (fun p => (p.statement.text, p.statement.parameters.length)) := by
  have hkeys : (listing "שולם" "100" "גן").filters.keys =
      (listing "'; DROP TABLE x --" "1e3" "$9 OR 1=1").filters.keys := by decide
  have hkeeps : ∀ key ∈ (listing "שולם" "100" "גן").filters.keys,
      keeps Registry.transactions (listing "שולם" "100" "גן").filters key =
        keeps Registry.transactions (listing "'; DROP TABLE x --" "1e3" "$9 OR 1=1").filters key := by
    decide
  exact ⟨hkeeps, text_plan_eq 100 rfl rfl rfl rfl (fun key => by rw [hkeys]) hkeeps⟩

end Domain

end CivicReport
