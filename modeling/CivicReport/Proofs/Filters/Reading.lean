import CivicReport.Intent.FilterKey

/-!
How keys are read, as a table: the reserved key, the two comparisons on a base that is not empty,
and every other key as the name of a field. Main statements: the table and the reading agree, so
each key has exactly one form, and different keys have different forms.
-/
namespace CivicReport.FilterKey

/-- The forms of keys, told apart by the reserved key and the two suffixes. -/
inductive Reads : String → FilterKey → Prop where
  | search : Reads searchKey .search
  | above {base : String} (hbase : base ≠ "") : Reads (base ++ aboveSuffix) (.above base)
  | below {base : String} (hbase : base ≠ "") : Reads (base ++ belowSuffix) (.below base)
  | equals {key : String} (hsearch : key ≠ searchKey)
      (hplain : ∀ base, base ≠ "" → key ≠ base ++ aboveSuffix ∧ key ≠ base ++ belowSuffix) :
      Reads key (.equals key)

theorem ne_empty_of_baseOf? {suffix key base : String} (h : baseOf? suffix key = some base) :
    base ≠ "" := by
  rintro rfl
  obtain rfl := eq_append_of_baseOf? h
  simp [baseOf?] at h

theorem baseOf?_eq_none {suffix key : String} (h : ∀ base, base ≠ "" → key ≠ base ++ suffix) :
    baseOf? suffix key = none := by
  cases hbase : baseOf? suffix key with
  | none => rfl
  | some base => exact absurd (eq_append_of_baseOf? hbase) (h base (ne_empty_of_baseOf? hbase))

/-- A text that does not end in a suffix is not made by appending it. -/
theorem append_ne {base suffix key : String} (h : ¬ suffix.toList <:+ key.toList) :
    base ++ suffix ≠ key := by
  rintro rfl
  apply h
  rw [String.toList_append]
  exact List.suffix_append _ _

theorem append_aboveSuffix_ne_append_belowSuffix (a b : String) :
    a ++ aboveSuffix ≠ b ++ belowSuffix := by
  intro h
  have hlists : a.toList ++ aboveSuffix.toList = b.toList ++ belowSuffix.toList := by
    simpa using congrArg String.toList h
  have hlength : aboveSuffix.toList.length = belowSuffix.toList.length := by decide
  have hsuffixes := (List.append_inj' hlists hlength).2
  exact absurd hsuffixes (by decide)

theorem read_of_reads {key : String} {form : FilterKey} (h : Reads key form) :
    read key = form := by
  cases h with
  | search => rfl
  | above hbase =>
    rw [read, if_neg (append_ne (by decide)), baseOf?_append hbase]
  | @below base hbase =>
    have habove : baseOf? aboveSuffix (base ++ belowSuffix) = none :=
      baseOf?_eq_none fun other _ => (append_aboveSuffix_ne_append_belowSuffix other base).symm
    rw [read, if_neg (append_ne (by decide)), habove, baseOf?_append hbase]
  | equals hsearch hplain =>
    rw [read, if_neg hsearch, baseOf?_eq_none fun base hbase => (hplain base hbase).1,
      baseOf?_eq_none fun base hbase => (hplain base hbase).2]

theorem reads_read (key : String) : Reads key (read key) := by
  by_cases hsearch : key = searchKey
  · subst hsearch
    exact .search
  · by_cases habove : ∃ base, base ≠ "" ∧ key = base ++ aboveSuffix
    · obtain ⟨base, hbase, rfl⟩ := habove
      rw [read_of_reads (.above hbase)]
      exact .above hbase
    · by_cases hbelow : ∃ base, base ≠ "" ∧ key = base ++ belowSuffix
      · obtain ⟨base, hbase, rfl⟩ := hbelow
        rw [read_of_reads (.below hbase)]
        exact .below hbase
      · have hplain : Reads key (.equals key) :=
          .equals hsearch fun base hbase =>
            ⟨fun h => habove ⟨base, hbase, h⟩, fun h => hbelow ⟨base, hbase, h⟩⟩
        rw [read_of_reads hplain]
        exact hplain

theorem reads_iff {key : String} {form : FilterKey} : Reads key form ↔ read key = form :=
  ⟨read_of_reads, fun h => h ▸ reads_read key⟩

theorem read_inj {a b : String} : read a = read b ↔ a = b :=
  ⟨fun h => by rw [← write_read a, h, write_read], congrArg read⟩

theorem read_append_aboveSuffix_iff {base : String} :
    read (base ++ aboveSuffix) = .above base ↔ base ≠ "" := by
  refine ⟨?_, fun hbase => read_of_reads (.above hbase)⟩
  rintro h rfl
  exact absurd h (by decide)

theorem read_append_belowSuffix_iff {base : String} :
    read (base ++ belowSuffix) = .below base ↔ base ≠ "" := by
  refine ⟨?_, fun hbase => read_of_reads (.below hbase)⟩
  rintro h rfl
  exact absurd h (by decide)

end CivicReport.FilterKey
