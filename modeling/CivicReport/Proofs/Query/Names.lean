import CivicReport.Proofs.Query.Placeholders
import Mathlib.Data.List.Nodup

/-!
The names of the columns that a query asks for. A list shows each field once, however often it is
asked for; a report by groups does not count how often a further total was asked for. Main
statement: the columns have different names, unless a report by groups is asked twice for the total
of one field.
-/
namespace CivicReport

open Compilation

theorem nodup_eraseDups {α : Type} [BEq α] [LawfulBEq α] (items : List α) :
    items.eraseDups.Nodup := by
  cases items with
  | nil => exact List.nodup_nil
  | cons first rest =>
    rw [List.eraseDups_cons, List.nodup_cons]
    exact ⟨by simp, nodup_eraseDups _⟩
termination_by items.length
decreasing_by
  rw [List.length_cons]
  exact Nat.lt_succ_of_le (List.length_filter_le _ _)

/-- What is kept of a list is distinct if nothing that is kept stands there twice. -/
theorem nodup_filter_iff {α : Type} [DecidableEq α] {p : α → Bool} {items : List α} :
    (items.filter p).Nodup ↔ ∀ a, p a = true → items.count a ≤ 1 := by
  rw [List.nodup_iff_count_le_one]
  refine forall_congr' fun a => ?_
  by_cases ha : p a = true
  · simp only [List.count_filter ha, ha, true_imp_iff]
  · have hnone : a ∉ items.filter p := fun hmem => ha (List.mem_filter.1 hmem).2
    simp [List.count_eq_zero_of_not_mem hnone, ha]

namespace Domain

variable {d : Domain} {f : Field} {i : Intent} {key : String} {keys wanted : List String}

theorem key_of_field? (h : d.field? key = some f) : f.key = key := by
  simpa using List.find?_some h

theorem field?_key_of_mem (h : f ∈ keys.filterMap d.field?) : d.field? f.key = some f := by
  obtain ⟨key, -, hkey⟩ := List.mem_filterMap.1 h
  rw [key_of_field? hkey, hkey]

/-- The keys of the fields that are found are those of the keys that lead to one. -/
theorem map_key_filter_filterMap (p : Field → Bool) (keys : List String) :
    ((keys.filterMap d.field?).filter p).map (·.key) =
      keys.filter fun key => (d.field? key).any p := by
  induction keys with
  | nil => rfl
  | cons key rest ih =>
    cases hfield : d.field? key with
    | none => simp [hfield, ih]
    | some f =>
      have hkey := key_of_field? hfield
      cases hp : p f with
      | true => simp [hfield, hp, hkey, ih]
      | false => simp [hfield, hp, ih]

/-- No field is named like an aggregate, and none is shown twice by default. -/
structure NamesApart (d : Domain) : Prop where
  aggregates : ∀ f ∈ d.fields, f.key ≠ "count" ∧ f.key ≠ "total_sum"
  defaults : d.defaultFields.Nodup

/-- A report by groups sums up the field under the key on request: it is neither the amount, which
is summed up anyway, nor what rows are grouped by. -/
def IsFurtherTotal (d : Domain) (key : String) : Prop :=
  ∃ f, d.field? key = some f ∧ f.aggregatable = true ∧ d.amountField? ≠ some f ∧
    ∀ group, groupField? d = some group → group.key ≠ key

theorem nodup_map_key_listFields (hd : d.defaultFields.Nodup) (wanted : List String) :
    ((listFields d wanted).map (·.key)).Nodup := by
  unfold listFields
  dsimp only
  split
  · have hall := map_key_filter_filterMap (d := d) (fun _ => true) d.defaultFields
    rw [List.filter_eq_self.2 fun _ _ => rfl] at hall
    rw [hall]
    exact hd.filter _
  · refine List.Nodup.map_on ?_ (nodup_eraseDups _)
    intro f hf g hg hkeys
    have hfound := field?_key_of_mem (List.mem_eraseDups.1 hf)
    rw [hkeys, field?_key_of_mem (List.mem_eraseDups.1 hg)] at hfound
    exact (Option.some.inj hfound).symm

theorem nodup_map_key_furtherTotals_iff {group : Field} (hgroup : groupField? d = some group) :
    ((furtherTotals d group wanted).map (·.key)).Nodup ↔
      ∀ key, d.IsFurtherTotal key → wanted.count key ≤ 1 := by
  rw [furtherTotals, map_key_filter_filterMap, nodup_filter_iff]
  refine forall_congr' fun key => imp_congr_left ?_
  simp only [IsFurtherTotal, hgroup, Option.any_eq_true, Option.some.injEq, forall_eq']
  refine exists_congr fun f => and_congr_right fun hfield => ?_
  rw [key_of_field? hfield]
  simp [and_assoc, ne_comm]

theorem of_mem_furtherTotals {group : Field} (h : f ∈ furtherTotals d group wanted) :
    f ∈ d.fields ∧ f.key ≠ group.key := by
  obtain ⟨hfound, htotal⟩ := List.mem_filter.1 h
  exact ⟨mem_of_mem_filterMap_field? hfound, by simp_all⟩

/-- The group, the number of rows and the amount have names of their own, which none of the further
totals has. -/
theorem nodup_name_groupProjection_iff (hd : d.NamesApart) {group : Field}
    (hgroup : groupField? d = some group) :
    ((groupProjection d group wanted).map (·.name)).Nodup ↔
      ∀ key, d.IsFurtherTotal key → wanted.count key ≤ 1 := by
  have hnames : (groupProjection d group wanted).map (·.name) =
      group.key :: "count" :: (d.amountField?.toList.map (fun _ => "total_sum") ++
        (furtherTotals d group wanted).map (·.key)) := by
    simp [groupProjection, rowCount, Function.comp_def]
  have hapart : ∀ key ∈ (furtherTotals d group wanted).map (·.key),
      key ≠ group.key ∧ key ≠ "count" ∧ key ≠ "total_sum" := by
    intro key hkey
    obtain ⟨f, hf, rfl⟩ := List.mem_map.1 hkey
    obtain ⟨hfield, hother⟩ := of_mem_furtherTotals hf
    exact ⟨hother, hd.aggregates f hfield⟩
  obtain ⟨hcount, hsum⟩ := hd.aggregates group (mem_of_groupField? hgroup)
  rw [← nodup_map_key_furtherTotals_iff hgroup, hnames]
  generalize (furtherTotals d group wanted).map (·.key) = further at hapart ⊢
  have hgroup : group.key ∉ further := fun h => (hapart _ h).1 rfl
  have hrows : "count" ∉ further := fun h => (hapart _ h).2.1 rfl
  have hamount : "total_sum" ∉ further := fun h => (hapart _ h).2.2 rfl
  cases d.amountField? with
  | none => simp [hgroup, hrows, hcount]
  | some amount => simp [hgroup, hrows, hamount, hcount, hsum]

/-- The columns of a projection have different names, unless a report by groups is asked twice for
one of its further totals. -/
theorem nodup_name_iff (hd : d.NamesApart) {shown : List Projection}
    (h : projection d i = .ok shown) : (shown.map (·.name)).Nodup ↔
      (i.action = .group → ∀ key, d.IsFurtherTotal key → i.fields.count key ≤ 1) := by
  unfold projection at h
  cases haction : i.action with
  | count =>
    simp only [haction] at h
    obtain rfl := Except.ok.inj h
    simp
  | sum =>
    simp only [haction] at h
    obtain ⟨column, -, h⟩ := bind_eq_ok.1 h
    obtain rfl := Except.ok.inj h
    simp
  | average =>
    simp only [haction] at h
    obtain ⟨column, -, h⟩ := bind_eq_ok.1 h
    obtain rfl := Except.ok.inj h
    simp
  | group =>
    simp only [haction] at h
    obtain ⟨group, hgroup, h⟩ := bind_eq_ok.1 h
    obtain rfl := Except.ok.inj h
    simp only [true_imp_iff]
    exact nodup_name_groupProjection_iff hd (groupField_eq_ok_iff.1 hgroup)
  | list =>
    simp only [haction] at h
    obtain rfl := Except.ok.inj h
    have hkeys := nodup_map_key_listFields hd.defaults i.fields
    simpa [Function.comp_def] using hkeys

end Domain

namespace Registry

theorem namesApart_of_mem_municipal {d : Domain} (h : d ∈ municipal.domains) : d.NamesApart := by
  have hall : ∀ d ∈ municipal.domains,
      (∀ f ∈ d.fields, f.key ≠ "count" ∧ f.key ≠ "total_sum") ∧ d.defaultFields.Nodup := by
    decide
  obtain ⟨haggregates, hdefaults⟩ := hall d h
  exact ⟨haggregates, hdefaults⟩

/-- The columns of a municipal report have different names, unless it is one by groups that is asked
twice for the total of a field beside the amount. -/
theorem nodup_columns_iff {d : Domain} (hd : d ∈ municipal.domains) {rowCap : Nat} {i : Intent}
    {p : Plan} (h : d.plan rowCap i = .ok p) : (p.projection.map (·.name)).Nodup ↔
      (i.action = .group → ∀ key, d.IsFurtherTotal key → i.fields.count key ≤ 1) := by
  obtain ⟨shown, hshown, rfl⟩ := Domain.of_plan_eq_ok h
  exact Domain.nodup_name_iff (namesApart_of_mem_municipal hd) hshown

/-- Projects by department, with further totals. -/
def byDepartment (fields : List String) : Intent where
  domain := "tabarim"
  action := .group
  fields := fields
  confidence := 1.0
  source := .caller

theorem nodup_columns_iff_spent :
    let i := byDepartment ["status", "total_spent", "status"]
    ∃ p, projects ∈ municipal.domains ∧ projects.plan 100 i = .ok p ∧
      p.projection.map (·.name) = ["department", "count", "total_sum", "total_spent"] ∧
      ((p.projection.map (·.name)).Nodup ↔
        (i.action = .group → ∀ key, projects.IsFurtherTotal key → i.fields.count key ≤ 1)) := by
  intro i
  have hplan : ∃ p, projects.plan 100 i = .ok p ∧
      p.projection.map (·.name) = ["department", "count", "total_sum", "total_spent"] :=
    ⟨_, rfl, rfl⟩
  obtain ⟨p, hp, hnames⟩ := hplan
  exact ⟨p, List.mem_cons_self, hp, hnames, nodup_columns_iff List.mem_cons_self hp⟩

/-- A total that is asked for twice is there twice, under one name. -/
theorem nodup_columns_spentTwice : ∃ d ∈ municipal.domains, ∃ i p, d.plan 100 i = .ok p ∧
    p.projection.map (·.name) =
      ["department", "count", "total_sum", "total_spent", "total_spent"] ∧
    ¬ (p.projection.map (·.name)).Nodup :=
  ⟨projects, List.mem_cons_self, byDepartment ["total_spent", "total_spent"], _, rfl, rfl,
    by decide⟩

end Registry

end CivicReport
