import CivicReport.Proofs.Filters.Reading
import CivicReport.Proofs.Query.Conditions
import CivicReport.Proofs.Vetting.Acceptance

/-!
What becomes of each filter of an intent. Either the domain does not accept its key, and there is
one warning; or it gives one condition; or its value does not fit, and there is neither. Main
statement: the warnings of the vetting and the conditions of the query account for all filters in
this way, and the conditions stand in the order of the keys.
-/
namespace CivicReport

namespace Compilation

variable {d : Domain} {f : Field} {key base : String} {v : Scalar} {c : Condition}

/-- The condition for a key and a value that fits it. -/
inductive Expresses (d : Domain) (key : String) (v : Scalar) : Condition → Prop where
  | search (hkey : FilterKey.Reads key .search) (hcolumns : searchFields d ≠ [])
      (hwanted : Text.trimmed v.shown ≠ "") :
      Expresses d key v
        ⟨.anyContains ((searchFields d).map d.column),
          .text (containsPattern (Text.trimmed v.shown))⟩
  | above {base : String} {f : Field} {value : Scalar} (hkey : FilterKey.Reads key (.above base))
      (hf : d.field? base = some f) (hvalue : v.coerce? f = some value) :
      Expresses d key v ⟨compareShape d .greater f, value⟩
  | below {base : String} {f : Field} {value : Scalar} (hkey : FilterKey.Reads key (.below base))
      (hf : d.field? base = some f) (hvalue : v.coerce? f = some value) :
      Expresses d key v ⟨compareShape d .less f, value⟩
  | equals {base : String} {f : Field} {value : Scalar} (hkey : FilterKey.Reads key (.equals base))
      (hf : d.field? base = some f) (hwhole : ¬ (f.kind = .text ∧ d.layout.matchesParts f.key))
      (hvalue : v.coerce? f = some value) :
      Expresses d key v ⟨compareShape d .equal f, value⟩
  | contains {base : String} {f : Field} (hkey : FilterKey.Reads key (.equals base))
      (hf : d.field? base = some f) (hparts : f.kind = .text ∧ d.layout.matchesParts f.key) :
      Expresses d key v ⟨.contains (d.column f), .text (containsPattern v.shown)⟩

/-- A value that does not fit its key: a search without words or without columns, or a value that
is no parameter for the field. -/
inductive Unfit (d : Domain) (key : String) (v : Scalar) : Prop where
  | search (hkey : FilterKey.Reads key .search)
      (hnothing : searchFields d = [] ∨ Text.trimmed v.shown = "")
  | value {form : FilterKey} {base : String} {f : Field} (hkey : FilterKey.Reads key form)
      (hbase : form.base? = some base) (hf : d.field? base = some f) (hvalue : v.coerce? f = none)

theorem search?_eq_some_iff : search? d v = some c ↔
    searchFields d ≠ [] ∧ Text.trimmed v.shown ≠ "" ∧
      c = ⟨searchShape d, .text (containsPattern (Text.trimmed v.shown))⟩ := by
  simp only [search?, searchShape]
  split
  · next h =>
    simp only [Bool.or_eq_true, List.isEmpty_iff, List.map_eq_nil_iff, String.isEmpty_iff] at h
    simp only [reduceCtorEq, false_iff]
    rintro ⟨hcolumns, hwanted, -⟩
    exact h.elim hcolumns hwanted
  · next h =>
    simp only [Bool.or_eq_true, List.isEmpty_iff, List.map_eq_nil_iff, String.isEmpty_iff,
      not_or] at h
    simp [h.1, h.2, eq_comm]

theorem compare?_eq_some_iff {op : Comparison} : compare? d f op v = some c ↔
    ∃ value, v.coerce? f = some value ∧ c = ⟨compareShape d op f, value⟩ := by
  simp [compare?, compareShape, eq_comm]

theorem equals?_eq_some_iff : equals? d f v = some c ↔
    (¬ (f.kind = .text ∧ d.layout.matchesParts f.key) ∧
        ∃ value, v.coerce? f = some value ∧ c = ⟨compareShape d .equal f, value⟩) ∨
      (f.kind = .text ∧ d.layout.matchesParts f.key) ∧
        c = ⟨.contains (d.column f), .text (containsPattern v.shown)⟩ := by
  unfold equals?
  split
  · next hparts => simp [hparts, eq_comm]
  · next hwhole => simp [hwhole, compare?_eq_some_iff]

/-- An accepted key that speaks of a field speaks of one that is there. -/
theorem exists_field?_of_accepts {form : FilterKey} (h : d.accepts key = true)
    (hread : FilterKey.read key = form) (hbase : form.base? = some base) :
    ∃ f, d.field? base = some f := by
  simp only [Domain.accepts, hread] at h
  cases form with
  | search => contradiction
  | equals other | above other | below other =>
    obtain rfl : other = base := Option.some.inj hbase
    obtain ⟨f, hf, -⟩ := (Option.any_eq_true _ _).1 h
    exact ⟨f, hf⟩

theorem condition?_eq_some_iff :
    condition? d key v = some c ↔ d.accepts key = true ∧ Expresses d key v c := by
  constructor
  · intro h
    have haccepts : d.accepts key = true := by
      by_contra hrefused
      simp [condition?, hrefused] at h
    refine ⟨haccepts, ?_⟩
    rcases condition?_cases h with ⟨hread, hc⟩ | ⟨base, f, hread, hf, hc⟩ |
      ⟨base, f, hread, hf, hc⟩ | ⟨base, f, hread, hf, hc⟩
    · obtain ⟨hcolumns, hwanted, rfl⟩ := search?_eq_some_iff.1 hc
      exact .search (FilterKey.reads_iff.2 hread) hcolumns hwanted
    · rcases equals?_eq_some_iff.1 hc with ⟨hwhole, value, hvalue, rfl⟩ | ⟨hparts, rfl⟩
      · exact .equals (FilterKey.reads_iff.2 hread) hf hwhole hvalue
      · exact .contains (FilterKey.reads_iff.2 hread) hf hparts
    · obtain ⟨value, hvalue, rfl⟩ := compare?_eq_some_iff.1 hc
      exact .above (FilterKey.reads_iff.2 hread) hf hvalue
    · obtain ⟨value, hvalue, rfl⟩ := compare?_eq_some_iff.1 hc
      exact .below (FilterKey.reads_iff.2 hread) hf hvalue
  · rintro ⟨haccepts, h⟩
    cases h with
    | search hkey hcolumns hwanted =>
      simp only [condition?, haccepts, if_true, FilterKey.reads_iff.1 hkey]
      exact search?_eq_some_iff.2 ⟨hcolumns, hwanted, rfl⟩
    | above hkey hf hvalue =>
      simp only [condition?, haccepts, if_true, FilterKey.reads_iff.1 hkey, hf, Option.bind_some]
      exact compare?_eq_some_iff.2 ⟨_, hvalue, rfl⟩
    | below hkey hf hvalue =>
      simp only [condition?, haccepts, if_true, FilterKey.reads_iff.1 hkey, hf, Option.bind_some]
      exact compare?_eq_some_iff.2 ⟨_, hvalue, rfl⟩
    | equals hkey hf hwhole hvalue =>
      simp only [condition?, haccepts, if_true, FilterKey.reads_iff.1 hkey, hf, Option.bind_some]
      exact equals?_eq_some_iff.2 (.inl ⟨hwhole, _, hvalue, rfl⟩)
    | contains hkey hf hparts =>
      simp only [condition?, haccepts, if_true, FilterKey.reads_iff.1 hkey, hf, Option.bind_some]
      exact equals?_eq_some_iff.2 (.inr ⟨hparts, rfl⟩)

theorem condition?_eq_none_of_unfit (h : Unfit d key v) : condition? d key v = none := by
  apply Option.eq_none_iff_forall_ne_some.2
  intro c hc
  cases h with
  | search hkey hnothing =>
    have hread := FilterKey.reads_iff.1 hkey
    rcases condition?_cases hc with ⟨-, hc⟩ | ⟨base, f, hother, -⟩ | ⟨base, f, hother, -⟩ |
      ⟨base, f, hother, -⟩
    · obtain ⟨hcolumns, hwanted, -⟩ := search?_eq_some_iff.1 hc
      exact hnothing.elim hcolumns hwanted
    all_goals exact absurd (hread.symm.trans hother) nofun
  | @value form base f hkey hbase hf hvalue =>
    have hread := FilterKey.reads_iff.1 hkey
    have hcompare (op : Comparison) : compare? d f op v = none := by simp [compare?, hvalue]
    have hequals : equals? d f v = none := by
      have htext : f.kind ≠ .text := by
        intro hkind
        simp [Scalar.coerce?, hkind] at hvalue
      simp [equals?, htext, hcompare]
    rcases condition?_cases hc with ⟨hother, -⟩ | ⟨base', f', hother, hf', hc⟩ |
      ⟨base', f', hother, hf', hc⟩ | ⟨base', f', hother, hf', hc⟩
    · rw [← hread, hother] at hbase
      contradiction
    all_goals
      rw [← hread, hother] at hbase
      obtain rfl := Option.some.inj hbase
      obtain rfl := Option.some.inj (hf.symm.trans hf')
      simp [hequals, hcompare] at hc

theorem unfit_of_condition?_eq_none (haccepts : d.accepts key = true)
    (h : condition? d key v = none) : Unfit d key v := by
  have hkey := FilterKey.reads_read key
  have hrefutes (c : Condition) : ¬ Expresses d key v c := by
    intro hc
    rw [condition?_eq_some_iff.2 ⟨haccepts, hc⟩] at h
    contradiction
  cases hread : FilterKey.read key with
  | search =>
    rw [hread] at hkey
    refine .search hkey ?_
    by_contra hsomething
    obtain ⟨hcolumns, hwanted⟩ := not_or.1 hsomething
    exact hrefutes _ (.search hkey hcolumns hwanted)
  | equals base =>
    obtain ⟨f, hf⟩ := exists_field?_of_accepts haccepts hread rfl
    rw [hread] at hkey
    refine .value hkey rfl hf (Option.eq_none_iff_forall_ne_some.2 fun value hvalue => ?_)
    by_cases hparts : f.kind = .text ∧ d.layout.matchesParts f.key
    · exact hrefutes _ (.contains hkey hf hparts)
    · exact hrefutes _ (.equals hkey hf hparts hvalue)
  | above base =>
    obtain ⟨f, hf⟩ := exists_field?_of_accepts haccepts hread rfl
    rw [hread] at hkey
    exact .value hkey rfl hf <| Option.eq_none_iff_forall_ne_some.2 fun value hvalue =>
      hrefutes _ (.above hkey hf hvalue)
  | below base =>
    obtain ⟨f, hf⟩ := exists_field?_of_accepts haccepts hread rfl
    rw [hread] at hkey
    exact .value hkey rfl hf <| Option.eq_none_iff_forall_ne_some.2 fun value hvalue =>
      hrefutes _ (.below hkey hf hvalue)

/-- What can become of a filter. -/
inductive Fate where
  | unknown
  | applied
  | unfit

/-- When a filter has a fate. -/
def Meets (d : Domain) (key : String) (v : Scalar) : Fate → Prop
  | .unknown => d.accepts key = false
  | .applied => d.accepts key = true ∧ ∃ c, Expresses d key v c
  | .unfit => d.accepts key = true ∧ Unfit d key v

theorem meets_applied_iff : Meets d key v .applied ↔ ∃ c, condition? d key v = some c := by
  simp only [Meets, condition?_eq_some_iff, exists_and_left]

theorem existsUnique_meets (d : Domain) (key : String) (v : Scalar) :
    ∃! fate, Meets d key v fate := by
  cases haccepts : d.accepts key with
  | false =>
    refine ⟨.unknown, haccepts, ?_⟩
    rintro (_ | _ | _) h
    · rfl
    · exact absurd (haccepts.symm.trans h.1) nofun
    · exact absurd (haccepts.symm.trans h.1) nofun
  | true =>
    cases hc : condition? d key v with
    | none =>
      refine ⟨.unfit, ⟨haccepts, unfit_of_condition?_eq_none haccepts hc⟩, ?_⟩
      rintro (_ | _ | _) h
      · exact absurd (haccepts.symm.trans h) nofun
      · obtain ⟨c, hc'⟩ := meets_applied_iff.1 h
        exact absurd (hc.symm.trans hc') nofun
      · rfl
    | some c =>
      refine ⟨.applied, meets_applied_iff.2 ⟨c, hc⟩, ?_⟩
      rintro (_ | _ | _) h
      · exact absurd (haccepts.symm.trans h) nofun
      · rfl
      · exact absurd (hc.symm.trans (condition?_eq_none_of_unfit h.2)) nofun

/-- The filters that give conditions, and these conditions, stand in the same order. -/
theorem forall₂_conditions (d : Domain) (entries : List (String × Scalar)) :
    List.Forall₂ (fun e c => condition? d e.1 e.2 = some c)
      (entries.filter fun e => (condition? d e.1 e.2).isSome)
      (entries.filterMap fun e => condition? d e.1 e.2) := by
  induction entries with
  | nil => exact .nil
  | cons e rest ih =>
    cases hc : condition? d e.1 e.2 with
    | none => simpa [hc] using ih
    | some c => simpa [hc] using ih

/-- Warnings and conditions account for all filters. -/
structure Accounted (d : Domain) (f : Filters) (warnings : List String)
    (conditions : List Condition) : Prop where
  fate : ∀ e ∈ f.entries, ∃! fate, Meets d e.1 e.2 fate
  unknown : ∀ e ∈ f.entries, Meets d e.1 e.2 .unknown →
    warnings.count (Vetting.filterWarning e.1 d) = 1
  known : ∀ e ∈ f.entries, ¬ Meets d e.1 e.2 .unknown →
    Vetting.filterWarning e.1 d ∉ warnings
  /-- One condition for each filter that is applied and no other, in the order of the keys. -/
  applied : ∃ applied : List (String × Scalar),
    (∀ e, e ∈ applied ↔ e ∈ f.entries ∧ Meets d e.1 e.2 .applied) ∧
      (applied.Pairwise fun a b => a.1 < b.1) ∧
      List.Forall₂ (fun e c => Expresses d e.1 e.2 c) applied conditions

theorem accounted (d : Domain) (i : Intent) :
    Accounted d i.filters (Vetting.remarks d i) (conditions d i.filters) where
  fate e _ := existsUnique_meets d e.1 e.2
  unknown e he hunknown := by
    have hkey : e.1 ∈ i.filters.keys := List.mem_map_of_mem he
    have hrefused : d.accepts e.1 = false := hunknown
    simp [Vetting.count_remarks hkey, hrefused]
  known e he hknown := by
    have hkey : e.1 ∈ i.filters.keys := List.mem_map_of_mem he
    have haccepts : d.accepts e.1 = true := by simpa [Meets] using hknown
    apply List.count_eq_zero.1
    simp [Vetting.count_remarks hkey, haccepts]
  applied := by
    refine ⟨i.filters.entries.filter fun e => (condition? d e.1 e.2).isSome, fun e => ?_,
      i.filters.ordered.filter _, ?_⟩
    · simp only [List.mem_filter, Option.isSome_iff_exists, meets_applied_iff]
    · exact (forall₂_conditions d i.filters.entries).imp fun e c hc =>
        (condition?_eq_some_iff.1 hc).2

end Compilation

namespace Vetting

open Compilation

/-- Every filter of a vetted intent is warned about, applied or unfit, and nothing else is applied.
A strict vetting leaves no filter unknown. -/
theorem accounted_of_check {r : Registry} {i : Intent} {warnings : List String}
    (h : check .lenient r i = .ok warnings) :
    ∃ d, r.domain? i.domain = some d ∧ Accounted d i.filters warnings (conditions d i.filters) ∧
      (∀ rowCap p, d.plan rowCap i = .ok p → p.conditions = conditions d i.filters) ∧
      ∀ remarks, check .strict r i = .ok remarks →
        ∀ e ∈ i.filters.entries, ¬ Meets d e.1 e.2 .unknown := by
  obtain ⟨hnamed, d, hd, -, -, rfl⟩ := check_eq_ok_iff.1 h
  refine ⟨d, hd, accounted d i, fun rowCap p hp => ?_, fun warnings hstrict e he hunknown => ?_⟩
  · obtain ⟨shown, -, rfl⟩ := Domain.of_plan_eq_ok hp
    rfl
  · obtain ⟨-, haccepts, -⟩ := (check_of_domain? hnamed hd).1 hstrict
    have hkey : e.1 ∈ i.filters.keys := List.mem_map_of_mem he
    exact absurd ((haccepts rfl _ hkey).symm.trans hunknown) nofun

/-- An unknown filter, two that are applied, and two that do not fit: an amount that is no number
and a search for white space. -/
def mixture : Intent where
  domain := "transactions"
  action := .list
  filters := ((((Filters.empty.insert "colour" (.text "red")).insert "amount_gt"
    (.integer 100)).insert "amount_lt" (.text "many")).insert "supplier" (.text "50%")).insert
      FilterKey.searchKey (.text " \t")
  fields := ["colour"]
  confidence := 1.0
  source := .caller

theorem accounted_of_check_mixture :
    let warnings := ["unknown filter 'colour' for domain 'transactions' ignored",
      "unknown field 'colour' for domain 'transactions' ignored"]
    check .lenient Registry.municipal mixture = .ok warnings ∧
      (conditions Registry.transactions mixture.filters).length = 2 ∧
      ∃ d, Registry.municipal.domain? mixture.domain = some d ∧
        Accounted d mixture.filters warnings (conditions d mixture.filters) := by
  intro warnings
  have hcheck : check .lenient Registry.municipal mixture = .ok warnings := by decide
  have happlied : (conditions Registry.transactions mixture.filters).length = 2 := by
    decide
  obtain ⟨d, hd, haccounted, -⟩ := accounted_of_check hcheck
  exact ⟨hcheck, happlied, d, hd, haccounted⟩

end Vetting

end CivicReport
