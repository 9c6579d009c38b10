import CivicReport.Proofs.Desk.Confirmation
import CivicReport.Proofs.Desk.Readings
import CivicReport.Proofs.Query.Accounting

/-!
Whether the filters of a reading reach the query. The fields of the municipal domains take every
text, year and finite amount that the rules find, and a search always has columns. Main statement:
a question about the municipal budget that the rules read is compiled, with one condition for each
filter whose value is finite; and only the amount can be infinite.
-/
namespace CivicReport

theorem Scalar.isSome_toAmount?_iff {v : Scalar} (h : ∀ s, v ≠ .text s) :
    v.toAmount?.isSome = true ↔ v.IsFinite := by
  cases v with
  | integer n => simp [toAmount?, IsFinite]
  | decimal x => simp [toAmount?, toFloat?, IsFinite, Option.filter_some]
  | text s => exact absurd rfl (h s)

theorem Scalar.ofFloat_ne_text (x : Float) (s : String) : ofFloat x ≠ .text s := by
  unfold ofFloat
  split
  · split <;> exact nofun
  · exact nofun

open Extraction Compilation

/-- The fields of a domain take what the rules find, and its reports can be searched, summed up and
grouped. -/
structure Domain.TakesFindings (d : Domain) : Prop where
  text : ∀ key ∈ textKeys, ∀ f ∈ d.field? key, f.kind = .text ∨ f.kind = .enumeration
  year : ∀ f ∈ d.field? "year", f.kind = .integer
  amount : ∀ f ∈ d.amountField?, f.kind = .currency ∧ f.key ≠ "" ∧ d.field? f.key = some f
  search : searchFields d ≠ []
  summed : d.amountField?.isSome
  grouped : (groupField? d).isSome

theorem Registry.takesFindings_of_mem_municipal {d : Domain} (h : d ∈ municipal.domains) :
    d.TakesFindings := by
  have hall : ∀ d ∈ municipal.domains,
      (∀ key ∈ textKeys, ∀ f ∈ d.field? key, f.kind = .text ∨ f.kind = .enumeration) ∧
      (∀ f ∈ d.field? "year", f.kind = .integer) ∧
      (∀ f ∈ d.amountField?, f.kind = .currency ∧ f.key ≠ "" ∧ d.field? f.key = some f) ∧
      searchFields d ≠ [] ∧ d.amountField?.isSome ∧ (groupField? d).isSome := by
    decide
  obtain ⟨htext, hyear, hamount, hsearch, hsummed, hgrouped⟩ := hall d h
  exact ⟨htext, hyear, hamount, hsearch, hsummed, hgrouped⟩

theorem Registry.accepts_above_of_mem_municipal : ∀ d ∈ municipal.domains, ∀ f ∈ d.amountField?,
    d.accepts (f.key ++ FilterKey.aboveSuffix) = true := by
  decide

namespace Compilation

variable {d : Domain} {f : Field} {q : Question} {key base : String} {v : Scalar}

theorem read_of_mem_textKeys : ∀ key ∈ "year" :: textKeys, FilterKey.read key = .equals key := by
  decide

theorem isSome_compare?_iff {op : Comparison} :
    (compare? d f op v).isSome = true ↔ (v.coerce? f).isSome = true := by
  simp [compare?]

theorem isSome_equals?_of_coerce? (h : (v.coerce? f).isSome = true) :
    (equals? d f v).isSome = true := by
  unfold equals?
  split
  · rfl
  · exact isSome_compare?_iff.2 h

theorem exists_field?_of_mem_textKeys (haccepts : d.accepts key = true)
    (hkey : key ∈ "year" :: textKeys) : ∃ f, d.field? key = some f ∧
      condition? d key v = equals? d f v := by
  have hread := read_of_mem_textKeys key hkey
  obtain ⟨f, hf⟩ := exists_field?_of_accepts haccepts hread rfl
  exact ⟨f, hf, by simp [condition?, haccepts, hread, hf]⟩

/-- The condition of a finding fails only where the amount is not finite. -/
theorem isSome_condition?_of_finding (hd : d.TakesFindings) (haccepts : d.accepts key = true)
    (h : Finding q d key v) : (condition? d key v).isSome = true ↔ v.IsFinite := by
  cases h with
  | text hkey s =>
    obtain ⟨f, hf, hcondition⟩ := exists_field?_of_mem_textKeys haccepts (by simp [hkey])
    have hkind : f.kind = .text ∨ f.kind = .enumeration := hd.text key hkey f hf
    have hcoerce : ((Scalar.text s).coerce? f).isSome = true := by
      rcases hkind with hkind | hkind <;> simp [Scalar.coerce?, hkind]
    rw [hcondition]
    exact ⟨fun _ => trivial, fun _ => isSome_equals?_of_coerce? hcoerce⟩
  | year n =>
    obtain ⟨f, hf, hcondition⟩ := exists_field?_of_mem_textKeys haccepts (by simp)
    have hkind : f.kind = .integer := hd.year f hf
    have hcoerce : ((Scalar.integer n).coerce? f).isSome = true := by
      simp [Scalar.coerce?, hkind, Scalar.toInt64?]
    rw [hcondition]
    exact ⟨fun _ => trivial, fun _ => isSome_equals?_of_coerce? hcoerce⟩
  | @amount field key x hfield hkey hfound =>
    obtain ⟨hkind, hnamed, hown⟩ := hd.amount field hfield
    have hcoerce : (Scalar.ofFloat x).coerce? field = (Scalar.ofFloat x).toAmount? := by
      simp [Scalar.coerce?, hkind]
    have hcondition : ∃ op, condition? d key (.ofFloat x) = compare? d field op (.ofFloat x) := by
      simp only [comparisonKeys, List.mem_cons, List.not_mem_nil, or_false] at hkey
      rcases hkey with rfl | rfl
      · exact ⟨.greater, by
          simp [condition?, haccepts, FilterKey.read_of_reads (.above hnamed), hown]⟩
      · exact ⟨.less, by
          simp [condition?, haccepts, FilterKey.read_of_reads (.below hnamed), hown]⟩
    obtain ⟨op, hop⟩ := hcondition
    rw [hop, isSome_compare?_iff, hcoerce]
    exact Scalar.isSome_toAmount?_iff (Scalar.ofFloat_ne_text x)

theorem isSome_condition?_search (hd : d.TakesFindings) {s : String}
    (hwords : Text.trimmed s ≠ "") :
    (condition? d FilterKey.searchKey (.text s)).isSome = true := by
  have hexpresses := Expresses.search (v := .text s) .search hd.search hwords
  rw [condition?_eq_some_iff.2 ⟨d.accepts_searchKey, hexpresses⟩]
  rfl

end Compilation

/-- A domain that can be summed up and grouped has a plan for every action. -/
theorem Domain.TakesFindings.exists_plan {d : Domain} (hd : d.TakesFindings) {i : Intent}
    (h : i.domain = d.key) (rowCap : Nat) :
    ∃ p, d.plan rowCap i = .ok p ∧ p.conditions = conditions d i.filters := by
  obtain ⟨amount, hamount⟩ := Option.isSome_iff_exists.1 hd.summed
  obtain ⟨group, hgroup⟩ := Option.isSome_iff_exists.1 hd.grouped
  have hprojection : ∃ shown, projection d i = .ok shown := by
    unfold projection
    cases i.action with
    | count | list => exact ⟨_, rfl⟩
    | sum | average =>
      simp only [amountColumn, hamount]
      exact ⟨_, rfl⟩
    | group =>
      simp only [groupField, hgroup]
      exact ⟨_, rfl⟩
  obtain ⟨shown, hshown⟩ := hprojection
  refine ⟨d.planWith rowCap i shown, ?_, rfl⟩
  rw [Domain.plan_eq_map h, hshown]
  rfl

/-- Conditions cover the filters of a reading: there is one for each finite value and no other, in
the order of the filters, and nothing but the amount is ever infinite. -/
structure Covers (q : Question) (d : Domain) (f : Filters) (conditions : List Condition) :
    Prop where
  finite : List.Forall₂ (fun e c => Expresses d e.1 e.2 c)
    (f.entries.filter fun e => e.2.IsFinite) conditions
  infinite : ∀ e ∈ f.entries, ¬ e.2.IsFinite → amount? q d = some e

namespace Covers

variable {q : Question} {d : Domain} {f : Filters} {conditions : List Condition}

theorem length_eq (h : Covers q d f conditions) (hfinite : ∀ e ∈ f.entries, e.2.IsFinite) :
    conditions.length = f.size := by
  have hall : f.entries.filter (fun e => e.2.IsFinite) = f.entries :=
    List.filter_eq_self.2 fun e he => decide_eq_true (hfinite e he)
  rw [← h.finite.length_eq, hall]
  rfl

/-- An infinite amount is the only filter without a condition. -/
theorem length_add_one (h : Covers q d f conditions) {e : String × Scalar} (he : e ∈ f.entries)
    (hinfinite : ¬ e.2.IsFinite) : conditions.length + 1 = f.size := by
  have hnodup : f.entries.Nodup := f.nodup_keys.of_map _
  have hsole : ∀ other ∈ f.entries, (¬ other.2.IsFinite ↔ other = e) := by
    intro other hother
    refine ⟨fun hothers => ?_, fun heq => heq ▸ hinfinite⟩
    exact Option.some.inj ((h.infinite other hother hothers).symm.trans (h.infinite e he hinfinite))
  -- The infinite filters are those equal to the amount, and entries are distinct.
  have hone : f.entries.countP (fun other => ¬ other.2.IsFinite) = 1 := by
    rw [← List.count_eq_one_of_mem hnodup he]
    apply List.countP_congr
    intro other hother
    simp [hsole other hother]
  have hsplit : f.entries.length = f.entries.countP (fun e => e.2.IsFinite) +
      f.entries.countP (fun e => ¬ e.2.IsFinite) := by
    simpa using List.length_eq_countP_add_countP (l := f.entries) (fun e => decide e.2.IsFinite)
  rw [← h.finite.length_eq, ← List.countP_eq_length_filter, Filters.size, hsplit, hone]

end Covers

/-- The filters of a reading are covered by the conditions that they give. -/
theorem covers_conditions {q : Question} {d : Domain} (hd : d.TakesFindings)
    (hwords : Text.trimmed q.rawText ≠ "") {f : Filters}
    (h : ∀ e ∈ f.entries, d.accepts e.1 = true ∧
      (Finding q d e.1 e.2 ∨ e = (FilterKey.searchKey, .text q.rawText))) :
    Covers q d f (conditions d f) := by
  have hgiven : ∀ e ∈ f.entries, ((condition? d e.1 e.2).isSome = true ↔ e.2.IsFinite) := by
    intro e he
    obtain ⟨haccepts, hfinding | rfl⟩ := h e he
    · exact isSome_condition?_of_finding hd haccepts hfinding
    · exact ⟨fun _ => trivial, fun _ => isSome_condition?_search hd hwords⟩
  have hfilter : f.entries.filter (fun e => (condition? d e.1 e.2).isSome) =
      f.entries.filter fun e => e.2.IsFinite :=
    List.filter_congr fun e he => Bool.eq_iff_iff.2 ((hgiven e he).trans decide_eq_true_iff.symm)
  constructor
  · rw [← hfilter]
    exact (forall₂_conditions d f.entries).imp fun e c hc => (condition?_eq_some_iff.1 hc).2
  · rintro ⟨key, v⟩ he hinfinite
    obtain ⟨-, hfinding | heq⟩ := h _ he
    · cases hfinding with
      | text hkey s => exact absurd trivial hinfinite
      | year n => exact absurd trivial hinfinite
      | amount hfield hkey hfound => exact hfound
    · cases heq
      exact absurd trivial hinfinite

namespace Desk

open Interpretation

theorem compile_of_check {desk : Desk} {i : Intent} {d : Domain} {p : Plan} {warnings : List String}
    (hcheck : Vetting.check .lenient desk.registry i = .ok warnings)
    (hd : desk.registry.domain? i.domain = some d) (hp : d.plan desk.rowCap i = .ok p) :
    desk.compile i = .ok (d, p, warnings) := by
  simp only [compile, hcheck, hd, hp]
  rfl

/-- What the rules read about the municipal budget is compiled, without warnings and with
conditions that cover its filters. -/
theorem exists_compile_of_parseByRules {desk : Desk} (hdesk : desk.registry = Registry.municipal)
    {text : String} {i : Intent}
    (h : parseByRules desk.registry desk.longestQuestion text = .ok i) :
    ∃ d ∈ Registry.municipal.domains, i.domain = d.key ∧ ∃ p, desk.compile i = .ok (d, p, []) ∧
      Covers (Question.ofText text) d i.filters p.conditions := by
  rw [hdesk] at h
  obtain ⟨hwords, -, hread⟩ := parseByRules_eq_ok_iff.1 h
  obtain ⟨d, hd, hdomain, hfilters⟩ := exists_domain_readByRules Registry.ofDomains_municipal
    Registry.named_municipal (Question.ofText text)
  have hclean : Clean Registry.municipal (readByRules Registry.municipal (Question.ofText text)) :=
    clean_readByRules Registry.ofDomains_municipal Registry.named_municipal
  rw [hread] at hdomain hfilters hclean
  have htakes := Registry.takesFindings_of_mem_municipal hd
  obtain ⟨p, hp, hconditions⟩ := htakes.exists_plan hdomain desk.rowCap
  refine ⟨d, hd, hdomain, p, ?_, ?_⟩
  · have hcheck : Vetting.check .lenient desk.registry i = .ok [] := by
      rw [hdesk]
      exact hclean.lenient
    have hknown : desk.registry.domain? i.domain = some d := by
      rw [hdesk, hdomain]
      exact Registry.domain?_of_mem Registry.ofDomains_municipal hd
    exact compile_of_check hcheck hknown hp
  · have hraw : (Question.ofText text).rawText = Text.trimmed text := rfl
    have hkept : Text.trimmed (Question.ofText text).rawText ≠ "" := by
      rw [hraw]
      exact mt Text.trimmed_trimmed_eq_empty_iff.1 hwords
    rw [hconditions]
    exact covers_conditions htakes hkept hfilters

/-- Every filter that the rules find in a question about the municipal budget has its condition,
unless it is the amount and its value is not finite. -/
theorem conditions_of_parseByRules {desk : Desk} (hdesk : desk.registry = Registry.municipal)
    {text : String} {i : Intent}
    (h : parseByRules desk.registry desk.longestQuestion text = .ok i) :
    ∃ d p, desk.compile i = .ok (d, p, []) ∧
      Covers (Question.ofText text) d i.filters p.conditions ∧
      ((∀ e ∈ i.filters.entries, e.2.IsFinite) → p.conditions.length = i.filters.size) ∧
      ∀ e ∈ i.filters.entries, ¬ e.2.IsFinite → p.conditions.length + 1 = i.filters.size := by
  obtain ⟨d, -, -, p, hcompile, hcovers⟩ := exists_compile_of_parseByRules hdesk h
  exact ⟨d, p, hcompile, hcovers, hcovers.length_eq, fun e => hcovers.length_add_one⟩

theorem conditions_of_parseByRules_invoices :
    let desk : Desk := { registry := Registry.municipal }
    ∃ i d p, parseByRules desk.registry desk.longestQuestion "חשבוניות מעל 5000" = .ok i ∧
      desk.compile i = .ok (d, p, []) ∧
      Covers (Question.ofText "חשבוניות מעל 5000") d i.filters p.conditions := by
  intro desk
  have hparse : parseByRules desk.registry desk.longestQuestion "חשבוניות מעל 5000" =
      .ok (readByRules Registry.municipal (Question.ofText "חשבוניות מעל 5000")) :=
    parseByRules_eq_ok_iff.2 ⟨by decide, by decide, rfl⟩
  obtain ⟨d, p, hcompile, hcovers, -⟩ := conditions_of_parseByRules
    (show desk.registry = Registry.municipal from rfl) hparse
  exact ⟨_, d, p, hparse, hcompile, hcovers⟩

/-- The letters of a question about an amount of 309 digits, more than a double can hold. -/
def hugeLetters : List Char := "invoices above ".toList ++ List.replicate 309 '9'

def hugeAmount : String := String.ofList hugeLetters

theorem folded_hugeAmount : (Question.ofText hugeAmount).folded = hugeLetters := by
  rw [Question.ofText, hugeAmount, String.toList_ofList]
  decide +kernel

/-- The parts of a comparison that the amount is taken from. -/
theorem amountBound_hugeLetters :
    ((amountBound.find? (without Vocabulary.dateBounds hugeLetters)).map fun m =>
      (m.capture? .number, (m.capture? .above).isSome, m.capture? .unit)) =
        some (some ⟨.number, 15, List.replicate 309 '9'⟩, true, none) := by
  decide +kernel

theorem readFloat?_hugeNumber :
    ((readFloat? ((withoutEndMarks (List.replicate 309 '9')).filter (· != ','))).map fun x =>
      decide (Scalar.ofFloat (x * multiplier [])).IsFinite) = some false := by
  decide +kernel

theorem amount?_hugeAmount {d : Domain} {field : Field} (h : d.amountField? = some field) :
    ∃ v : Scalar, ¬ v.IsFinite ∧ amount? (Question.ofText hugeAmount) d =
      some (field.key ++ FilterKey.aboveSuffix, v) := by
  obtain ⟨m, hm, hparts⟩ := Option.map_eq_some_iff.1 amountBound_hugeLetters
  obtain ⟨x, hx, hvalue⟩ := Option.map_eq_some_iff.1 readFloat?_hugeNumber
  simp only [Prod.mk.injEq] at hparts
  obtain ⟨hnumber, habove, hunit⟩ := hparts
  refine ⟨.ofFloat (x * multiplier []), of_decide_eq_false hvalue, ?_⟩
  simp only [amount?, h, Option.bind_some, folded_hugeAmount, hm, hnumber, hx, hunit,
    directionSuffix, habove]
  rfl

/-- An amount beyond all doubles is read as a filter and gives no condition. -/
theorem conditions_lt_size_hugeAmount :
    let desk : Desk := { registry := Registry.municipal }
    ∃ i d p, parseByRules desk.registry 500 hugeAmount = .ok i ∧ desk.compile i = .ok (d, p, []) ∧
      p.conditions.length < i.filters.size := by
  intro desk
  have hwords : Text.trimmed hugeAmount ≠ "" := by
    rw [ne_eq, Text.trimmed_eq_empty_iff, hugeAmount, String.toList_ofList]
    decide
  have hshort : hugeAmount.length ≤ 500 := by
    rw [hugeAmount, String.length_ofList]
    decide +kernel
  have hinvoices : (Question.ofText hugeAmount).contains (Folding.foldText "invoices") = true := by
    rw [Question.contains, folded_hugeAmount]
    decide
  have htransactions : Registry.transactions ∈ Registry.municipal.domains := by
    simp [Registry.municipal]
  have hprimary : "invoices" ∈ Registry.transactions.primaryWords := by decide
  obtain ⟨i, hi⟩ := exists_byRules?_of_primaryWord htransactions hprimary hinvoices
  have hparse : parseByRules desk.registry desk.longestQuestion hugeAmount = .ok i := by
    refine parseByRules_eq_ok_iff.2 ⟨hwords, hshort, ?_⟩
    rw [readByRules_eq_getD Registry.ofDomains_municipal Registry.named_municipal, hi]
    rfl
  -- Whichever domain fits best, it has an amount and accepts the comparison.
  obtain ⟨d, hd, hintent⟩ := exists_of_byRules? hi
  obtain ⟨field, hfield⟩ :=
    Option.isSome_iff_exists.1 (Registry.takesFindings_of_mem_municipal hd).summed
  obtain ⟨v, hinfinite, hamount⟩ := amount?_hugeAmount hfield
  have haccepts := Registry.accepts_above_of_mem_municipal d hd field hfield
  have hfound : (field.key ++ FilterKey.aboveSuffix, v) ∈ i.filters.entries := by
    rw [hintent]
    exact mem_filters_intentIn (mem_filters_of_amount? hamount haccepts)
  obtain ⟨found, -, -, p, hcompile, hcovers⟩ :=
    exists_compile_of_parseByRules (show desk.registry = Registry.municipal from rfl) hparse
  have hsize := hcovers.length_add_one hfound hinfinite
  exact ⟨i, found, p, hparse, hcompile, by omega⟩

end Desk

end CivicReport
