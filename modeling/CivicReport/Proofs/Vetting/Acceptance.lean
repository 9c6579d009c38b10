import CivicReport.Vetting
import CivicReport.Proofs.Filters.Keys
import CivicReport.Proofs.Text.Trimming
import Mathlib.Data.List.Count
import Mathlib.Data.List.Nodup

/-!
What vetting accepts. An intent passes if its domain is named and known, its confidence is in range
and, for a strict vetting, the domain accepts all its filter keys. Main statement: this decides, and
tells the warnings.
-/
namespace CivicReport.Vetting

variable {s : Strictness} {r : Registry} {i : Intent} {d : Domain} {warnings : List String}

theorem checkConfidence_eq_ok_iff {x : Float} :
    checkConfidence x = .ok () ↔ (x.isFinite && 0.0 ≤ x && x ≤ 1.0) = true := by
  unfold checkConfidence
  split
  · next h => simp [h]
  · next h => simp [h]

instance (x : Float) : Decidable (checkConfidence x = .ok ()) :=
  decidable_of_iff _ checkConfidence_eq_ok_iff.symm

/-- All warnings about an intent for a domain. -/
def remarks (d : Domain) (i : Intent) : List String :=
  (unknownFilters d i.filters).map (filterWarning · d) ++
    (unknownFields d i.fields).map (fieldWarning · d)

theorem unknownFilters_eq_nil_iff {f : Filters} :
    unknownFilters d f = [] ↔ ∀ key ∈ f.keys, d.accepts key = true := by
  simp [unknownFilters, List.filter_eq_nil_iff]

/-- An intent that names a known domain is vetted by its confidence and its filter keys. -/
theorem check_of_domain? (hnamed : (Text.trim i.domain.toList).isEmpty = false)
    (hd : r.domain? i.domain = some d) :
    check s r i = .ok warnings ↔ checkConfidence i.confidence = .ok () ∧
      (s = .strict → ∀ key ∈ i.filters.keys, d.accepts key = true) ∧ remarks d i = warnings := by
  simp only [check, hnamed, hd]
  refine check_bind_eq_ok.trans ?_
  rw [← unknownFilters_eq_nil_iff]
  cases s with
  | lenient => simp [remarks, pure, Except.pure]
  | strict =>
    cases hunknown : unknownFilters d i.filters with
    | nil => simp [remarks, hunknown, pure, Except.pure]
    | cons key rest => simp

theorem check_eq_ok_iff : check s r i = .ok warnings ↔
    (Text.trim i.domain.toList).isEmpty = false ∧ ∃ d, r.domain? i.domain = some d ∧
      checkConfidence i.confidence = .ok () ∧
      (s = .strict → ∀ key ∈ i.filters.keys, d.accepts key = true) ∧ remarks d i = warnings := by
  cases hnamed : (Text.trim i.domain.toList).isEmpty with
  | true => simp [check, hnamed]
  | false =>
    cases hd : r.domain? i.domain with
    | none => simp [check, hnamed, hd]
    | some d => simp [check_of_domain? hnamed hd]

/-- Without fields, and with filters that the domain accepts, there is nothing to remark. -/
theorem check_eq_ok_nil (hnamed : Text.trimmed i.domain ≠ "")
    (hd : r.domain? i.domain = some d) (hconfidence : checkConfidence i.confidence = .ok ())
    (haccepts : ∀ key ∈ i.filters.keys, d.accepts key = true) (hfields : i.fields = [])
    (s : Strictness) : check s r i = .ok [] := by
  have hletters : (Text.trim i.domain.toList).isEmpty = false :=
    Bool.eq_false_iff.2 (mt Text.trimmed_eq_empty_iff.2 hnamed)
  refine (check_of_domain? hletters hd).2 ⟨hconfidence, fun _ => haccepts, ?_⟩
  simp [remarks, unknownFilters_eq_nil_iff.2 haccepts, hfields, unknownFields]

theorem warning_injective (opening : String) (d : Domain) : Function.Injective fun key =>
    opening ++ key ++ "' for domain '" ++ d.key ++ "' ignored" := by
  intro a b h
  have hkey : opening ++ a = opening ++ b :=
    (String.append_left_inj _).1 <| (String.append_left_inj _).1 <| (String.append_left_inj _).1 h
  exact (String.append_right_inj _).1 hkey

theorem filterWarning_injective (d : Domain) : Function.Injective (filterWarning · d) :=
  warning_injective "unknown filter '" d

theorem fieldWarning_injective (d : Domain) : Function.Injective (fieldWarning · d) :=
  warning_injective "unknown field '" d

theorem toList_prefix_toList_append (a b : String) : a.toList <+: (a ++ b).toList := by
  rw [String.toList_append]
  exact List.prefix_append _ _

theorem filterWarning_ne_fieldWarning (key other : String) (d : Domain) :
    filterWarning key d ≠ fieldWarning other d := by
  intro h
  have hopening (opening middle : String) :
      opening.toList <+:
        (opening ++ middle ++ "' for domain '" ++ d.key ++ "' ignored").toList := by
    rw [String.append_assoc, String.append_assoc, String.append_assoc]
    exact toList_prefix_toList_append _ _
  have hfilter : "unknown filter '".toList <+: (filterWarning key d).toList := hopening _ key
  have hfield : "unknown field '".toList <+: (filterWarning key d).toList := by
    rw [h]
    exact hopening _ other
  rcases List.prefix_or_prefix_of_prefix hfilter hfield with hbegins | hbegins
  · exact absurd hbegins (by decide)
  · exact absurd hbegins (by decide)

theorem count_remarks {d : Domain} {i : Intent} {key : String} (h : key ∈ i.filters.keys) :
    (remarks d i).count (filterWarning key d) = if d.accepts key then 0 else 1 := by
  have hfields : ((unknownFields d i.fields).map (fieldWarning · d)).count (filterWarning key d) =
      0 := by
    apply List.count_eq_zero_of_not_mem
    intro hmem
    obtain ⟨other, -, hother⟩ := List.mem_map.1 hmem
    exact filterWarning_ne_fieldWarning key other d hother.symm
  have hnodup : (unknownFilters d i.filters).Nodup := i.filters.nodup_keys.filter _
  rw [remarks, List.count_append, hfields, Nat.add_zero,
    List.count_map_of_injective _ _ (filterWarning_injective d)]
  cases haccepts : d.accepts key with
  | true =>
    apply List.count_eq_zero_of_not_mem
    simp [unknownFilters, haccepts]
  | false =>
    apply List.count_eq_one_of_mem hnodup
    simp [unknownFilters, haccepts, h]

end CivicReport.Vetting
