import CivicReport.Proposal.Contract
import CivicReport.Registry.Municipal
import CivicReport.Proofs.Filters.Reading
import CivicReport.Proofs.Registry.Acceptance
import CivicReport.Proofs.Vetting.Grammar

/-!
The filter keys that a contract offers to a model. They are made by adding suffixes to the keys of
fields, while a domain takes keys apart to decide which of them it accepts. Main statement: as long
as no field has a key that could be taken apart itself, both sets of keys are the same, so a strict
vetting refuses an intent that is otherwise in order only for a key that is not on offer.
-/
namespace CivicReport

namespace FilterKey

/-- A key that is not empty and has neither suffix. -/
def IsPlain (key : String) : Prop :=
  key ≠ "" ∧ ¬ aboveSuffix.toList <:+ key.toList ∧ ¬ belowSuffix.toList <:+ key.toList

instance (key : String) : Decidable (IsPlain key) := by
  unfold IsPlain
  infer_instance

/-- A plain key is never one that a suffix has been added to. -/
theorem IsPlain.ne_append {key : String} (h : IsPlain key) (base : String) :
    key ≠ base ++ aboveSuffix ∧ key ≠ base ++ belowSuffix :=
  ⟨(append_ne h.2.1).symm, (append_ne h.2.2).symm⟩

end FilterKey

theorem Domain.any_field?_iff {d : Domain} (hown : ∀ f ∈ d.fields, d.field? f.key = some f)
    {key : String} {p : Field → Bool} :
    (d.field? key).any p = true ↔ ∃ f ∈ d.fields, f.key = key ∧ p f = true := by
  rw [Option.any_eq_true]
  constructor
  · rintro ⟨f, hf, hp⟩
    exact ⟨f, List.mem_of_find?_eq_some hf, by simpa using List.find?_some hf, hp⟩
  · rintro ⟨f, hf, rfl, hp⟩
    exact ⟨f, hown f hf, hp⟩

namespace Contract

variable {d : Domain} {key : String}

/-- A key is among the hints for a domain. -/
def Lists (c : Contract) (domain key : String) : Prop :=
  ∃ d ∈ c.domains, d.key = domain ∧ ∃ hint ∈ d.filters, hint.key = key

theorem mem_hintsFor_iff {f : Field} : (∃ hint ∈ hintsFor f, hint.key = key) ↔
    f.filterable = true ∧ (f.key = key ∨ f.kind.isOrdered = true ∧
      (f.key ++ FilterKey.aboveSuffix = key ∨ f.key ++ FilterKey.belowSuffix = key)) := by
  unfold hintsFor
  cases f.filterable with
  | false => simp
  | true =>
    cases f.kind.isOrdered with
    | false => simp
    | true => simp [FilterKey.write]

theorem mem_filters_ofDomain_iff : (∃ hint ∈ (ofDomain d).filters, hint.key = key) ↔
    (∃ f ∈ d.fields, ∃ hint ∈ hintsFor f, hint.key = key) ∨ FilterKey.searchKey = key := by
  simp only [ofDomain, List.mem_append, List.mem_flatMap, List.mem_singleton, or_and_right,
    exists_or, exists_eq_left]
  refine or_congr_left ⟨?_, ?_⟩
  · rintro ⟨hint, ⟨f, hf, hhint⟩, hkey⟩
    exact ⟨f, hf, hint, hhint, hkey⟩
  · rintro ⟨f, hf, hint, hhint, hkey⟩
    exact ⟨hint, ⟨f, hf, hhint⟩, hkey⟩

/-- The hints for a domain in terms of its fields. -/
theorem hinted_iff : (∃ hint ∈ (ofDomain d).filters, hint.key = key) ↔
    (∃ f ∈ d.fields, f.filterable = true ∧ (f.key = key ∨ f.kind.isOrdered = true ∧
      (f.key ++ FilterKey.aboveSuffix = key ∨ f.key ++ FilterKey.belowSuffix = key))) ∨
      FilterKey.searchKey = key := by
  simp only [mem_filters_ofDomain_iff, mem_hintsFor_iff]

/-- A key with a suffix is on offer for the field that it is made from and no other. -/
theorem suffixed_iff (hown : ∀ f ∈ d.fields, d.field? f.key = some f) {base made : String}
    (hmade : ∀ f ∈ d.fields, f.key ≠ made) :
    (∃ f ∈ d.fields, f.filterable = true ∧
      (f.key = made ∨ f.kind.isOrdered = true ∧ f.key = base)) ↔
      (d.field? base).any (fun f => f.filterable && f.kind.isOrdered) = true := by
  rw [Domain.any_field?_iff hown]
  refine exists_congr fun f => and_congr_right fun hf => ?_
  rw [or_iff_right (hmade f hf), Bool.and_eq_true, ← and_assoc]
  exact and_comm

/-- What is made by adding suffixes is what is recognised by taking them off. -/
theorem hinted_iff_accepts (hown : ∀ f ∈ d.fields, d.field? f.key = some f)
    (hplain : ∀ f ∈ d.fields, FilterKey.IsPlain f.key) :
    (∃ hint ∈ (ofDomain d).filters, hint.key = key) ↔ d.accepts key = true := by
  rw [hinted_iff, Domain.accepts]
  have hform := FilterKey.reads_read key
  generalize FilterKey.read key = form at hform
  cases hform with
  | search => simp
  | @above base hbase =>
    have hsearch : FilterKey.searchKey ≠ base ++ FilterKey.aboveSuffix :=
      (FilterKey.append_ne (by decide)).symm
    have hbelow (a : String) : a ++ FilterKey.belowSuffix ≠ base ++ FilterKey.aboveSuffix :=
      (FilterKey.append_aboveSuffix_ne_append_belowSuffix base a).symm
    simp only [String.append_left_inj, hsearch, hbelow, or_false]
    exact suffixed_iff hown fun f hf => ((hplain f hf).ne_append base).1
  | @below base hbase =>
    have hsearch : FilterKey.searchKey ≠ base ++ FilterKey.belowSuffix :=
      (FilterKey.append_ne (by decide)).symm
    have habove (a : String) : a ++ FilterKey.aboveSuffix ≠ base ++ FilterKey.belowSuffix :=
      FilterKey.append_aboveSuffix_ne_append_belowSuffix a base
    simp only [String.append_left_inj, hsearch, habove, or_false, false_or]
    exact suffixed_iff hown fun f hf => ((hplain f hf).ne_append base).2
  | equals hsearch hbases =>
    simp only [Domain.any_field?_iff hown, hsearch.symm, or_false]
    refine exists_congr fun f => and_congr_right fun hf => ?_
    obtain ⟨habove, hbelow⟩ := hbases f.key (hplain f hf).1
    rw [or_iff_left fun h => h.2.elim habove.symm hbelow.symm]
    exact and_comm

variable {domains : List Domain} {r : Registry}

/-- The domains of a contract are those of the registry, each under its own key. -/
theorem lists_ofRegistry_iff (hr : Registry.ofDomains domains = .ok r) (hd : d ∈ r.domains) :
    (ofRegistry r).Lists d.key key ↔ ∃ hint ∈ (ofDomain d).filters, hint.key = key := by
  simp only [Lists, ofRegistry, List.mem_map, exists_exists_and_eq_and]
  constructor
  · rintro ⟨other, hother, hsame, hhint⟩
    have hfound : r.domain? d.key = some other := hsame ▸ Registry.domain?_of_mem hr hother
    obtain rfl : d = other := by simpa [Registry.domain?_of_mem hr hd] using hfound
    exact hhint
  · exact fun hhint => ⟨d, hd, rfl, hhint⟩

/-- A complete intent is refused by a strict vetting for its filter keys alone. -/
theorem exists_read_strict_iff {source : Source} {members : List (String × Json)} {i : Intent}
    {warnings : List String}
    (hlists : ∀ d ∈ r.domains, ∀ key, (ofRegistry r).Lists d.key key ↔ d.accepts key = true)
    (hread : Vetting.read .lenient r source (.object members) = .ok (i, warnings))
    (hfilters : ¬ Vetting.Absent members "filters")
    (hexplanation : ¬ Vetting.Absent members "explanation") :
    (∃ result, Vetting.read .strict r source (.object members) = .ok result) ↔
      ∀ entries, Json.lookup "filters" members = some (.object entries) →
        ∀ m ∈ entries, (ofRegistry r).Lists i.domain m.1 := by
  obtain ⟨-, d, hd, -⟩ := Vetting.check_eq_ok_iff.1 (Vetting.read_object_eq_ok_iff.1 hread).2
  have hmem : d ∈ r.domains := List.mem_of_find?_eq_some hd
  have hkey : d.key = i.domain := by simpa using List.find?_some hd
  simp only [← hkey, hlists d hmem]
  constructor
  · rintro ⟨⟨other, found⟩, hstrict⟩
    obtain ⟨hlenient, d', hd', hcomplete⟩ := Vetting.read_strict_eq_ok_iff.1 hstrict
    obtain rfl : i = other := by
      have hpair : (i, warnings) = (other, found) := Except.ok.inj (hread.symm.trans hlenient)
      exact congrArg Prod.fst hpair
    obtain rfl : d = d' := Option.some.inj (hd.symm.trans hd')
    exact hcomplete.accepted
  · exact fun haccepts => ⟨(i, warnings),
      Vetting.read_strict_eq_ok_iff.2 ⟨hread, d, hd, hfilters, hexplanation, haccepts⟩⟩

/-- A contract offers exactly the keys that the domain accepts. So whoever keeps to it is not
refused, and whoever does not is. -/
theorem lists_iff_accepts (hr : Registry.ofDomains domains = .ok r)
    (hplain : ∀ d ∈ r.domains, ∀ f ∈ d.fields, FilterKey.IsPlain f.key) :
    (∀ d ∈ r.domains, ∀ key, (ofRegistry r).Lists d.key key ↔ d.accepts key = true) ∧
    ∀ source members i warnings,
      Vetting.read .lenient r source (.object members) = .ok (i, warnings) →
      ¬ Vetting.Absent members "filters" → ¬ Vetting.Absent members "explanation" →
      ((∃ result, Vetting.read .strict r source (.object members) = .ok result) ↔
        ∀ entries, Json.lookup "filters" members = some (.object entries) →
          ∀ m ∈ entries, (ofRegistry r).Lists i.domain m.1) := by
  have hlists : ∀ d ∈ r.domains, ∀ key, (ofRegistry r).Lists d.key key ↔ d.accepts key = true := by
    intro d hd key
    rw [lists_ofRegistry_iff hr hd]
    exact hinted_iff_accepts (fun f hf => Registry.field?_of_mem hr hd hf) (hplain d hd)
  exact ⟨hlists, fun source members i warnings hread hfilters hexplanation =>
    exists_read_strict_iff hlists hread hfilters hexplanation⟩

/-- An answer with one filter. -/
def answerWith (key : String) : List (String × Json) :=
  [("domain", .text "transactions"), ("action", .text "sum"), ("confidence", .number (.whole 1)),
   ("filters", .object [(key, .number (.whole 5000))]), ("explanation", .text "")]

def intentWith (key : String) : Intent where
  domain := "transactions"
  action := .sum
  filters := Filters.empty.insert key (.integer 5000)
  confidence := Float.ofInt 1
  source := .model

theorem lists_iff_accepts_municipal :
    let r := Registry.municipal
    Registry.ofDomains r.domains = .ok r ∧
      (∀ d ∈ r.domains, ∀ f ∈ d.fields, FilterKey.IsPlain f.key) ∧
      (ofRegistry r).Lists "transactions" "amount_gt" ∧
      ¬ (ofRegistry r).Lists "transactions" "status_gt" ∧
      (∃ result, Vetting.read .strict r .model (.object (answerWith "amount_gt")) = .ok result) ∧
      ¬ ∃ result,
        Vetting.read .strict r .model (.object (answerWith "status_gt")) = .ok result := by
  intro r
  have hr : Registry.ofDomains r.domains = .ok r := rfl
  have hplain : ∀ d ∈ r.domains, ∀ f ∈ d.fields, FilterKey.IsPlain f.key := by decide
  obtain ⟨hlists, hstrict⟩ := lists_iff_accepts hr hplain
  obtain ⟨d, hd, hkey, hyes, hno⟩ : ∃ d ∈ r.domains, d.key = "transactions" ∧
      d.accepts "amount_gt" = true ∧ d.accepts "status_gt" = false := by decide
  have hamount : (ofRegistry r).Lists "transactions" "amount_gt" :=
    hkey ▸ (hlists d hd _).2 hyes
  have hstatus : ¬ (ofRegistry r).Lists "transactions" "status_gt" := by
    rw [← hkey, hlists d hd, hno]
    decide
  have hpasses (key : String) :
      (∃ result, Vetting.read .strict r .model (.object (answerWith key)) = .ok result) ↔
        (ofRegistry r).Lists "transactions" key := by
    have hmembers : Vetting.readMembers .lenient r .model (answerWith key) =
        .ok (intentWith key) := rfl
    obtain ⟨warnings, hread⟩ := Vetting.exists_read_lenient_iff.2 hmembers
    rw [hstrict _ _ _ warnings hread (Vetting.not_absent_of_lookup rfl nofun)
      (Vetting.not_absent_of_lookup rfl nofun)]
    simp [answerWith, intentWith, Json.lookup]
  exact ⟨hr, hplain, hamount, hstatus, (hpasses _).2 hamount, mt (hpasses _).1 hstatus⟩

end Contract

end CivicReport
