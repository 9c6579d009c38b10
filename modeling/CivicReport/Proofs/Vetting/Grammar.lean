import CivicReport.Json.Record
import CivicReport.Proofs.Decimal.Digits
import CivicReport.Proofs.Decimal.Doubles
import CivicReport.Proofs.Json.Members
import CivicReport.Proofs.Vetting.Acceptance

/-!
The grammar of intents in JSON. It says, member by member, which objects a vetting accepts, and it
is told apart from what an accepted object describes. Main statement: a lenient vetting accepts the
objects of the grammar and no other value, it gives the one intent that the object describes, and a
strict vetting gives the same intent for those objects that are complete.
-/
namespace CivicReport

/-- The whole numbers between zero and one, and the doubles there. -/
def Number.InUnit : Number → Prop
  | whole n => n = 0 ∨ n = 1
  | real x => 0.0 ≤ x ∧ x ≤ 1.0

theorem Vetting.checkConfidence_toFloat_eq_ok_iff {n : Number} :
    checkConfidence n.toFloat = .ok () ↔ n.InUnit := by
  have hunit : n.InUnit ↔ (0.0 : Float) ≤ n.toFloat ∧ n.toFloat ≤ 1.0 := by
    cases n with
    | whole n => exact ofInt_mem_unit_iff.symm
    | real x => rfl
  rw [checkConfidence_eq_ok_iff, hunit]
  simp only [Bool.and_eq_true, decide_eq_true_eq]
  exact ⟨fun ⟨⟨_, hzero⟩, hone⟩ => ⟨hzero, hone⟩,
    fun ⟨hzero, hone⟩ => ⟨⟨isFinite_of_mem_unit hzero hone, hzero⟩, hone⟩⟩

/-- The value that a JSON text or number stands for. A number is an integer exactly if it is written
as one and has no more than 64 bits. -/
inductive Scalar.Denotes : Json → Scalar → Prop where
  | text (s : String) : Denotes (.text s) (.text s)
  | integer (n : Int64) : Denotes (.number (.whole n.toInt)) (.integer n)
  | beyond {n : Int} (hbeyond : n < -2 ^ 63 ∨ 2 ^ 63 ≤ n) :
      Denotes (.number (.whole n)) (.decimal (Float.ofInt n))
  | real (x : Float) : Denotes (.number (.real x)) (.decimal x)

theorem Scalar.ofJson?_eq_some_iff {j : Json} {v : Scalar} : ofJson? j = some v ↔ Denotes j v := by
  constructor
  · intro h
    cases j with
    | text s =>
      obtain rfl := Option.some.inj h
      exact .text s
    | number n =>
      obtain rfl := Option.some.inj h
      cases n with
      | real x => exact .real x
      | whole n =>
        rw [ofNumber, Number.int64?]
        cases hint : int64? n with
        | none => exact .beyond (int64?_eq_none_iff.1 hint)
        | some i =>
          rw [int64?_eq_some_iff.1 hint]
          exact .integer i
    | null | bool _ | array _ | object _ => contradiction
  · intro h
    cases h with
    | text s => rfl
    | integer n =>
      rw [ofJson?, ofNumber, Number.int64?, int64?_eq_some_iff.2 rfl]
    | beyond hbeyond =>
      rw [ofJson?, ofNumber, Number.int64?, int64?_eq_none_iff.2 hbeyond]
      rfl
    | real x => rfl

namespace Json

theorem mapM_text?_eq_some_iff {items : List Json} {names : List String} :
    items.mapM text? = some names ↔ items = names.map text := by
  constructor
  · intro h
    induction items generalizing names with
    | nil =>
      obtain rfl := Option.some.inj h
      rfl
    | cons first rest ih =>
      rw [List.mapM_cons] at h
      obtain ⟨s, hs, h⟩ := Option.bind_eq_some_iff.1 h
      obtain ⟨others, hothers, h⟩ := Option.bind_eq_some_iff.1 h
      obtain rfl := Option.some.inj h
      cases first with
      | text t =>
        obtain rfl := Option.some.inj hs
        rw [ih hothers, List.map_cons]
      | null | bool _ | number _ | array _ | object _ => contradiction
  · rintro rfl
    exact texts?_texts names

end Json

namespace Vetting

variable {r : Registry} {source : Source} {members : List (String × Json)} {i : Intent}
variable {key : String}

theorem read_eq_ok_iff {s : Strictness} {j : Json} {warnings : List String} :
    read s r source j = .ok (i, warnings) ↔ ∃ members, j = .object members ∧
      readMembers s r source members = .ok i ∧ check s r i = .ok warnings := by
  cases j with
  | object members =>
    simp only [read, bind_eq_ok, pure, Except.pure, Except.ok.injEq, Prod.mk.injEq,
      Json.object.injEq]
    constructor
    · rintro ⟨_, hi, _, hcheck, rfl, rfl⟩
      exact ⟨members, rfl, hi, hcheck⟩
    · rintro ⟨_, rfl, hi, hcheck⟩
      exact ⟨i, hi, warnings, hcheck, rfl, rfl⟩
  | null | bool _ | number _ | text _ | array _ => simp [read]

/-! Members that are there. -/

/-- No member has the key, or null is under it. -/
def Absent (members : List (String × Json)) (key : String) : Prop :=
  Json.lookup key members = none ∨ Json.lookup key members = some .null

theorem present?_eq_none_iff : present? members key = none ↔ Absent members key := by
  unfold present? Absent
  split
  · next h => simp [h]
  · next hnull =>
    rw [or_iff_left]
    exact fun h => hnull h

theorem present?_eq_some_iff {j : Json} :
    present? members key = some j ↔ Json.lookup key members = some j ∧ j ≠ .null := by
  unfold present?
  split
  · next h =>
    simp only [reduceCtorEq, h, Option.some.injEq, false_iff, not_and, not_not]
    exact Eq.symm
  · next hnull =>
    rw [iff_self_and]
    rintro h rfl
    exact hnull h

theorem checkPresent_eq_ok_iff {keys : List String} :
    checkPresent members keys = .ok () ↔ ∀ key ∈ keys, ¬ Absent members key := by
  induction keys with
  | nil => simp [checkPresent]
  | cons first rest ih =>
    rw [List.forall_mem_cons, ← ih, ← present?_eq_none_iff, checkPresent]
    cases present? members first with
    | none => simp
    | some j => simp

theorem not_absent_of_lookup {j : Json} (h : Json.lookup key members = some j) (hnull : j ≠ .null) :
    ¬ Absent members key := by
  rw [Absent, h]
  simp [hnull]

theorem required_lenient_iff : (∀ key ∈ requiredMembers .lenient, ¬ Absent members key) ↔
    ¬ Absent members "domain" ∧ ¬ Absent members "action" ∧ ¬ Absent members "confidence" := by
  simp [requiredMembers]

theorem required_strict_iff : (∀ key ∈ requiredMembers .strict, ¬ Absent members key) ↔
    (∀ key ∈ requiredMembers .lenient, ¬ Absent members key) ∧
      ¬ Absent members "filters" ∧ ¬ Absent members "explanation" := by
  simp [requiredMembers, and_assoc]

/-! What each member is read as. -/

theorem trim_isEmpty_eq_false_iff {s : String} :
    (Text.trim s.toList).isEmpty = false ↔ ∃ c ∈ s.toList, Text.isBlank c = false := by
  rw [List.isEmpty_eq_false_iff, Ne, Text.trim_eq_nil_iff]
  simp

theorem isSome_domain?_iff {r : Registry} {key : String} :
    (r.domain? key).isSome ↔ ∃ d ∈ r.domains, d.key = key := by
  simp [Registry.domain?, List.find?_isSome]

theorem readDomain_eq_ok_iff {j : Json} : readDomain r j = .ok key ↔
    j = .text key ∧ (∃ c ∈ key.toList, Text.isBlank c = false) ∧ ∃ d ∈ r.domains, d.key = key := by
  rw [← trim_isEmpty_eq_false_iff, ← isSome_domain?_iff]
  cases j with
  | text name =>
    rw [readDomain]
    split
    · next hblank =>
      simp only [reduceCtorEq, Json.text.injEq, false_iff]
      rintro ⟨rfl, hnamed, -⟩
      exact absurd hblank (by simp [hnamed])
    · next hnamed =>
      split
      · next hunknown =>
        simp only [reduceCtorEq, Json.text.injEq, false_iff]
        rintro ⟨rfl, -, hknown⟩
        exact absurd hunknown (by simpa [Option.isSome_iff_ne_none] using hknown)
      · next hknown =>
        simp only [Except.ok.injEq, Json.text.injEq, iff_self_and]
        rintro rfl
        exact ⟨by simpa using hnamed, by simpa [Option.isSome_iff_ne_none] using hknown⟩
  | null | bool _ | number _ | array _ | object _ => simp [readDomain]

theorem readAction_eq_ok_iff {j : Json} {a : Action} :
    readAction j = .ok a ↔ j = .text a.name := by
  constructor
  · intro h
    cases j with
    | text name =>
      rw [readAction] at h
      split at h
      · next found hfound =>
        obtain rfl := Except.ok.inj h
        have hname : found.name = name := by simpa using List.find?_some hfound
        rw [hname]
      · contradiction
    | null | bool _ | number _ | array _ | object _ => contradiction
  · rintro rfl
    simp only [readAction, Action.named?_name]

theorem readConfidence_eq_ok_iff {j : Json} {x : Float} :
    readConfidence j = .ok x ↔ ∃ n, j = .number n ∧ n.InUnit ∧ n.toFloat = x := by
  cases j with
  | number n =>
    simp only [readConfidence, check_bind_eq_ok, checkConfidence_toFloat_eq_ok_iff,
      Json.number.injEq, exists_eq_left', pure, Except.pure, Except.ok.injEq]
  | null | bool _ | text _ | array _ | object _ => simp [readConfidence]

/-- Only texts and numbers can be compared with. -/
def IsComparable (j : Json) : Prop := (∃ s, j = .text s) ∨ ∃ n, j = .number n

theorem isComparable_iff {j : Json} : IsComparable j ↔ ∃ v, Scalar.Denotes j v := by
  simp only [← Scalar.ofJson?_eq_some_iff]
  constructor
  · rintro (⟨s, rfl⟩ | ⟨n, rfl⟩)
    · exact ⟨.text s, rfl⟩
    · exact ⟨Scalar.ofNumber n, rfl⟩
  · rintro ⟨v, hv⟩
    cases j with
    | text s => exact .inl ⟨s, rfl⟩
    | number n => exact .inr ⟨n, rfl⟩
    | null | bool _ | array _ | object _ => contradiction

theorem exists_readFilters_iff (found : Filters) {entries : List (String × Json)} :
    (∃ f, readFilters found entries = .ok f) ↔ ∀ m ∈ entries, IsComparable m.2 := by
  induction entries generalizing found with
  | nil => simp [readFilters]
  | cons head rest ih =>
    rw [List.forall_mem_cons, isComparable_iff]
    simp only [readFilters, ← Scalar.ofJson?_eq_some_iff]
    cases hvalue : Scalar.ofJson? head.2 with
    | none => simp
    | some value => simp [ih]

/-- Values are put in one after another, so of two members with one key the later counts. -/
theorem get?_of_readFilters {entries : List (String × Json)} {found f : Filters}
    (h : readFilters found entries = .ok f) {v : Scalar} : f.get? key = some v ↔
      (∃ j, Json.lookup key entries.reverse = some j ∧ Scalar.Denotes j v) ∨
        Json.lookup key entries.reverse = none ∧ found.get? key = some v := by
  induction entries generalizing found with
  | nil =>
    obtain rfl := Except.ok.inj h
    simp [Json.lookup]
  | cons head rest ih =>
    rw [readFilters] at h
    split at h
    · next value hvalue =>
      rw [ih h, List.reverse_cons, Json.lookup_append, Filters.get?_insert]
      cases Json.lookup key rest.reverse with
      | some j => simp
      | none =>
        by_cases hkey : head.1 = key
        · simp [Json.lookup, hkey, ← Scalar.ofJson?_eq_some_iff, hvalue]
        · simp [Json.lookup, hkey]
    · contradiction

theorem filtersOf_eq_ok_iff {found : Option Json} {f : Filters} :
    filtersOf found = .ok f ↔
      (found = none ∨
        ∃ entries, found = some (.object entries) ∧ ∀ m ∈ entries, IsComparable m.2) ∧
      ∀ key v, f.get? key = some v ↔ ∃ entries j, found = some (.object entries) ∧
        Json.lookup key entries.reverse = some j ∧ Scalar.Denotes j v := by
  cases found with
  | none =>
    have hempty : f = .empty ↔ ∀ key v, f.get? key ≠ some v :=
      ⟨by rintro rfl; simp, fun h => Filters.ext_get? fun key v => by simp [h]⟩
    simpa [filtersOf, eq_comm (a := Filters.empty)] using hempty
  | some j =>
    cases j with
    | object entries =>
      simp only [filtersOf, reduceCtorEq, false_or, Option.some.injEq, Json.object.injEq,
        exists_eq_left', ← exists_readFilters_iff .empty]
      constructor
      · intro h
        refine ⟨⟨f, h⟩, fun key v => ?_⟩
        rw [get?_of_readFilters h]
        simp
      · rintro ⟨⟨g, hg⟩, hf⟩
        suffices hsame : g = f from hsame ▸ hg
        refine Filters.ext_get? fun key v => ?_
        rw [get?_of_readFilters hg, hf]
        simp
    | null | bool _ | number _ | text _ | array _ => simp [filtersOf]

theorem fieldsOf_eq_ok_iff {found : Option Json} {fields : List String} :
    fieldsOf found = .ok fields ↔
      found = none ∧ fields = [] ∨ found = some (Json.texts fields) := by
  cases found with
  | none => simp [fieldsOf, eq_comm]
  | some j =>
    cases j with
    | array items =>
      simp only [fieldsOf, reduceCtorEq, false_and, false_or, Option.some.injEq, Json.texts,
        Json.array.injEq, ← Json.mapM_text?_eq_some_iff]
      split
      · next names hnames => simp [hnames]
      · next hnames => simp [hnames]
    | null | bool _ | number _ | text _ | object _ => simp [fieldsOf, Json.texts]

theorem explanationOf_eq_ok_iff {found : Option Json} {explanation : String} :
    explanationOf found = .ok explanation ↔
      found = none ∧ explanation = "" ∨ found = some (.text explanation) := by
  cases found with
  | none => simp [explanationOf, eq_comm]
  | some j =>
    cases j with
    | text s => simp [explanationOf]
    | null | bool _ | number _ | array _ | object _ => simp [explanationOf]

/-! The grammar. -/

/-- The objects that a lenient vetting accepts. -/
structure Grammar (r : Registry) (members : List (String × Json)) : Prop where
  domain : ∃ key, Json.lookup "domain" members = some (.text key) ∧
    (∃ c ∈ key.toList, Text.isBlank c = false) ∧ ∃ d ∈ r.domains, d.key = key
  action : ∃ a : Action, Json.lookup "action" members = some (.text a.name)
  confidence : ∃ n : Number, Json.lookup "confidence" members = some (.number n) ∧ n.InUnit
  filters : Absent members "filters" ∨ ∃ entries,
    Json.lookup "filters" members = some (.object entries) ∧ ∀ m ∈ entries, IsComparable m.2
  fields : Absent members "fields" ∨ ∃ names,
    Json.lookup "fields" members = some (Json.texts names)
  explanation : Absent members "explanation" ∨ ∃ s,
    Json.lookup "explanation" members = some (.text s)

/-- The last member with the key counts. -/
def HoldsFilter (members : List (String × Json)) (key : String) (v : Scalar) : Prop :=
  ∃ entries j, Json.lookup "filters" members = some (.object entries) ∧
    Json.lookup key entries.reverse = some j ∧ Scalar.Denotes j v

/-- The intent carries what the members say and nothing else. -/
structure Describes (source : Source) (members : List (String × Json)) (i : Intent) : Prop where
  domain : Json.lookup "domain" members = some (.text i.domain)
  action : Json.lookup "action" members = some (.text i.action.name)
  confidence : ∃ n : Number, Json.lookup "confidence" members = some (.number n) ∧
    n.toFloat = i.confidence
  filters : ∀ key v, i.filters.get? key = some v ↔ HoldsFilter members key v
  fields : Absent members "fields" ∧ i.fields = [] ∨
    Json.lookup "fields" members = some (Json.texts i.fields)
  explanation : Absent members "explanation" ∧ i.explanation = "" ∨
    Json.lookup "explanation" members = some (.text i.explanation)
  source : i.source = source

/-- What a strict vetting wants besides. -/
structure Complete (d : Domain) (members : List (String × Json)) : Prop where
  filters : ¬ Absent members "filters"
  explanation : ¬ Absent members "explanation"
  accepted : ∀ entries, Json.lookup "filters" members = some (.object entries) →
    ∀ m ∈ entries, d.accepts m.1 = true

/-- A member that is read even if it is not there. -/
theorem getD_eq_iff {j : Json} :
    (Json.lookup key members).getD .null = j ∧ j ≠ .null ↔
      Json.lookup key members = some j ∧ j ≠ .null := by
  refine and_congr_left fun hnull => ?_
  cases Json.lookup key members with
  | none => simp [hnull.symm]
  | some found => simp

theorem getD_eq_text_iff {s : String} : (Json.lookup key members).getD .null = .text s ↔
    Json.lookup key members = some (.text s) := by
  simpa using getD_eq_iff (j := .text s)

theorem getD_eq_number_iff {n : Number} : (Json.lookup key members).getD .null = .number n ↔
    Json.lookup key members = some (.number n) := by
  simpa using getD_eq_iff (j := .number n)

theorem readMembers_eq_ok_iff {s : Strictness} : readMembers s r source members = .ok i ↔
    (∀ key ∈ requiredMembers s, ¬ Absent members key) ∧
      readDomain r ((Json.lookup "domain" members).getD .null) = .ok i.domain ∧
      readAction ((Json.lookup "action" members).getD .null) = .ok i.action ∧
      readConfidence ((Json.lookup "confidence" members).getD .null) = .ok i.confidence ∧
      filtersOf (present? members "filters") = .ok i.filters ∧
      fieldsOf (present? members "fields") = .ok i.fields ∧
      explanationOf (present? members "explanation") = .ok i.explanation ∧ i.source = source := by
  rw [readMembers, check_bind_eq_ok, checkPresent_eq_ok_iff]
  refine and_congr_right fun _ => ?_
  simp only [bind_eq_ok, pure, Except.pure, Except.ok.injEq]
  constructor
  · rintro ⟨domain, hdomain, action, haction, confidence, hconfidence, filters, hfilters, fields,
      hfields, explanation, hexplanation, rfl⟩
    exact ⟨hdomain, haction, hconfidence, hfilters, hfields, hexplanation, rfl⟩
  · rintro ⟨hdomain, haction, hconfidence, hfilters, hfields, hexplanation, rfl⟩
    exact ⟨_, hdomain, _, haction, _, hconfidence, _, hfilters, _, hfields, _, hexplanation, rfl⟩

theorem not_absent_of_grammar (h : Grammar r members) :
    ∀ key ∈ requiredMembers .lenient, ¬ Absent members key := by
  obtain ⟨_, hdomain, -⟩ := h.domain
  obtain ⟨_, haction⟩ := h.action
  obtain ⟨_, hconfidence, -⟩ := h.confidence
  exact required_lenient_iff.2 ⟨not_absent_of_lookup hdomain nofun,
    not_absent_of_lookup haction nofun, not_absent_of_lookup hconfidence nofun⟩

/-- The conditions on the members pass to the intent. -/
theorem of_describes (hgrammar : Grammar r members) (hdescribes : Describes source members i) :
    (∃ c ∈ i.domain.toList, Text.isBlank c = false) ∧ (∃ d ∈ r.domains, d.key = i.domain) ∧
      ∃ n : Number, Json.lookup "confidence" members = some (.number n) ∧ n.InUnit ∧
        n.toFloat = i.confidence := by
  obtain ⟨key, hkey, hnamed, hknown⟩ := hgrammar.domain
  obtain ⟨n, hn, hunit⟩ := hgrammar.confidence
  obtain ⟨m, hm, hx⟩ := hdescribes.confidence
  obtain rfl : n = m := by simpa [hn] using hm
  obtain rfl : key = i.domain := by simpa [hkey] using hdescribes.domain
  exact ⟨hnamed, hknown, n, hn, hunit, hx⟩

theorem readMembers_lenient_eq_ok_iff : readMembers .lenient r source members = .ok i ↔
    Grammar r members ∧ Describes source members i := by
  rw [readMembers_eq_ok_iff, readDomain_eq_ok_iff, readAction_eq_ok_iff, readConfidence_eq_ok_iff,
    filtersOf_eq_ok_iff, fieldsOf_eq_ok_iff, explanationOf_eq_ok_iff]
  simp only [getD_eq_text_iff, getD_eq_number_iff, present?_eq_none_iff, present?_eq_some_iff,
    Json.texts, ne_eq, reduceCtorEq, not_false_eq_true, and_true]
  constructor
  · rintro ⟨-, ⟨hdomain, hknown⟩, haction, ⟨n, hn, hunit, hx⟩, ⟨hcomparable, hfilters⟩, hfields,
      hexplanation, hsource⟩
    refine ⟨⟨⟨_, hdomain, hknown⟩, ⟨_, haction⟩, ⟨n, hn, hunit⟩, hcomparable, ?_, ?_⟩,
      ⟨hdomain, haction, ⟨n, hn, hx⟩, hfilters, hfields, hexplanation, hsource⟩⟩
    · exact hfields.imp And.left fun h => ⟨_, h⟩
    · exact hexplanation.imp And.left fun h => ⟨_, h⟩
  · rintro ⟨hgrammar, hdescribes⟩
    obtain ⟨hnamed, hknown, hconfidence⟩ := of_describes hgrammar hdescribes
    exact ⟨not_absent_of_grammar hgrammar, ⟨hdescribes.domain, hnamed, hknown⟩, hdescribes.action,
      hconfidence, ⟨hgrammar.filters, hdescribes.filters⟩, hdescribes.fields,
      hdescribes.explanation, hdescribes.source⟩

theorem exists_filters (h : Grammar r members) :
    ∃ f : Filters, ∀ key v, f.get? key = some v ↔ HoldsFilter members key v := by
  rcases h.filters with habsent | ⟨entries, hentries, hcomparable⟩
  · refine ⟨.empty, fun key v => ?_⟩
    simp only [Filters.get?_empty, reduceCtorEq, false_iff]
    rintro ⟨entries, -, hentries, -⟩
    exact not_absent_of_lookup hentries nofun habsent
  · obtain ⟨f, hf⟩ := (exists_readFilters_iff .empty).2 hcomparable
    refine ⟨f, fun key v => ?_⟩
    rw [get?_of_readFilters hf]
    simp [HoldsFilter, hentries]

/-- Nothing in the grammar is refused. -/
theorem exists_describes (h : Grammar r members) : ∃ i, Describes source members i := by
  obtain ⟨domain, hdomain, -⟩ := h.domain
  obtain ⟨action, haction⟩ := h.action
  obtain ⟨n, hn, -⟩ := h.confidence
  obtain ⟨filters, hfilters⟩ := exists_filters h
  obtain ⟨fields, hfields⟩ : ∃ names, Absent members "fields" ∧ names = [] ∨
      Json.lookup "fields" members = some (Json.texts names) :=
    h.fields.elim (fun habsent => ⟨[], .inl ⟨habsent, rfl⟩⟩) fun ⟨names, h⟩ => ⟨names, .inr h⟩
  obtain ⟨explanation, hexplanation⟩ : ∃ s, Absent members "explanation" ∧ s = "" ∨
      Json.lookup "explanation" members = some (.text s) :=
    h.explanation.elim (fun habsent => ⟨"", .inl ⟨habsent, rfl⟩⟩) fun ⟨s, h⟩ => ⟨s, .inr h⟩
  exact ⟨⟨domain, action, filters, fields, n.toFloat, explanation, source⟩, hdomain, haction,
    ⟨n, hn, rfl⟩, hfilters, hfields, hexplanation, rfl⟩

/-- The check that follows the reading of an intent refuses none for its domain or confidence. -/
theorem exists_check_lenient (h : readMembers .lenient r source members = .ok i) :
    ∃ warnings, check .lenient r i = .ok warnings := by
  obtain ⟨hgrammar, hdescribes⟩ := readMembers_lenient_eq_ok_iff.1 h
  obtain ⟨hnamed, hknown, n, -, hunit, hx⟩ := of_describes hgrammar hdescribes
  obtain ⟨d, hd⟩ := Option.isSome_iff_exists.1 (isSome_domain?_iff.2 hknown)
  refine ⟨remarks d i, (check_of_domain? (trim_isEmpty_eq_false_iff.2 hnamed) hd).2 ?_⟩
  refine ⟨?_, nofun, rfl⟩
  rw [← hx]
  exact checkConfidence_toFloat_eq_ok_iff.2 hunit

theorem read_object_eq_ok_iff {s : Strictness} {warnings : List String} :
    read s r source (.object members) = .ok (i, warnings) ↔
      readMembers s r source members = .ok i ∧ check s r i = .ok warnings := by
  simp [read_eq_ok_iff]

theorem exists_read_lenient_iff :
    (∃ warnings, read .lenient r source (.object members) = .ok (i, warnings)) ↔
      readMembers .lenient r source members = .ok i := by
  simp only [read_object_eq_ok_iff, exists_and_left, and_iff_left_iff_imp]
  exact exists_check_lenient

theorem readMembers_strict_eq_ok_iff : readMembers .strict r source members = .ok i ↔
    readMembers .lenient r source members = .ok i ∧ ¬ Absent members "filters" ∧
      ¬ Absent members "explanation" := by
  rw [readMembers_eq_ok_iff, readMembers_eq_ok_iff, required_strict_iff]
  exact and_right_comm

/-- The keys of the filters are those of the object that they were read from. -/
theorem mem_keys_iff_of_readMembers (h : readMembers .lenient r source members = .ok i) :
    key ∈ i.filters.keys ↔ ∃ entries, Json.lookup "filters" members = some (.object entries) ∧
      ∃ m ∈ entries, m.1 = key := by
  obtain ⟨hgrammar, hdescribes⟩ := readMembers_lenient_eq_ok_iff.1 h
  rw [Filters.mem_keys_iff]
  simp only [hdescribes.filters]
  constructor
  · rintro ⟨v, entries, j, hentries, hj, -⟩
    exact ⟨entries, hentries, (key, j), List.mem_reverse.1 (Json.mem_of_lookup hj), rfl⟩
  · rintro ⟨entries, hentries, m, hm, rfl⟩
    obtain ⟨j, hj⟩ := Json.exists_lookup_of_mem (List.mem_reverse.2 hm)
    rcases hgrammar.filters with habsent | ⟨_, hsame, hcomparable⟩
    · exact absurd habsent (not_absent_of_lookup hentries nofun)
    · obtain rfl : entries = _ := by simpa [hentries] using hsame
      obtain ⟨v, hv⟩ :=
        isComparable_iff.1 (hcomparable _ (List.mem_reverse.1 (Json.mem_of_lookup hj)))
      exact ⟨v, entries, j, hentries, hj, hv⟩

/-- The domain accepts the keys that the members give if it accepts those of the intent. -/
theorem forall_accepts_iff {d : Domain} (h : readMembers .lenient r source members = .ok i) :
    (∀ key ∈ i.filters.keys, d.accepts key = true) ↔
      ∀ entries, Json.lookup "filters" members = some (.object entries) →
        ∀ m ∈ entries, d.accepts m.1 = true := by
  simp only [mem_keys_iff_of_readMembers h]
  constructor
  · intro haccepts entries hentries m hm
    exact haccepts m.1 ⟨entries, hentries, m, hm, rfl⟩
  · rintro haccepts _ ⟨entries, hentries, m, hm, rfl⟩
    exact haccepts entries hentries m hm

theorem read_strict_eq_ok_iff {warnings : List String} :
    read .strict r source (.object members) = .ok (i, warnings) ↔
      read .lenient r source (.object members) = .ok (i, warnings) ∧
        ∃ d, r.domain? i.domain = some d ∧ Complete d members := by
  simp only [read_object_eq_ok_iff, readMembers_strict_eq_ok_iff, check_eq_ok_iff]
  constructor
  · rintro ⟨⟨hi, hfilters, hexplanation⟩, hnamed, d, hd, hconfidence, haccepts, hremarks⟩
    exact ⟨⟨hi, hnamed, d, hd, hconfidence, nofun, hremarks⟩, d, hd, hfilters, hexplanation,
      (forall_accepts_iff hi).1 (haccepts trivial)⟩
  · rintro ⟨⟨hi, hnamed, d, hd, hconfidence, -, hremarks⟩, other, hother, hcomplete⟩
    obtain rfl : d = other := by simpa [hd] using hother
    exact ⟨⟨hi, hcomplete.filters, hcomplete.explanation⟩, hnamed, d, hd, hconfidence,
      fun _ => (forall_accepts_iff hi).2 hcomplete.accepted, hremarks⟩

/-- A lenient vetting accepts the objects of the grammar and gives what they describe. A strict one
accepts those of them that are complete and gives the same. -/
theorem read_iff_grammar (r : Registry) (source : Source) (j : Json) :
    ((∃ i warnings, read .lenient r source j = .ok (i, warnings)) ↔
      ∃ members, j = .object members ∧ Grammar r members) ∧
    (∀ i, (∃ warnings, read .lenient r source j = .ok (i, warnings)) ↔
      ∃ members, j = .object members ∧ Grammar r members ∧ Describes source members i) ∧
    (∀ i warnings, read .strict r source j = .ok (i, warnings) ↔
      read .lenient r source j = .ok (i, warnings) ∧ ∃ members d, j = .object members ∧
        r.domain? i.domain = some d ∧ Complete d members) := by
  cases j with
  | object members =>
    simp only [exists_read_lenient_iff, readMembers_lenient_eq_ok_iff, Json.object.injEq,
      exists_eq_left', read_strict_eq_ok_iff, exists_and_left, and_iff_left_iff_imp,
      implies_true, and_true]
    exact exists_describes
  | null | bool _ | number _ | text _ | array _ => simp [read]

end Vetting

end CivicReport
