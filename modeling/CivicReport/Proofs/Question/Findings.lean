import CivicReport.Proofs.Filters.Keys
import CivicReport.Proofs.Question.Forms

/-!
What the rules find in a question. Main statements: the filters hold what each rule has found under
a key that the domain accepts, and nothing else; every filter has one of three forms, a text or a
year under a fixed key, or the amount under a comparison of the amount field.
-/
namespace CivicReport.Extraction

variable {q : Question} {d : Domain} {key : String} {v : Scalar}

/-- What a rule adds under a key if nothing is there. -/
def claim? (q : Question) (d : Domain) (key : String) (rule : Rule) : Option Scalar :=
  ((rule.find q d).filter fun e => e.1 == key && d.accepts key).map (·.2)

theorem claim?_eq_some_iff {rule : Rule} :
    claim? q d key rule = some v ↔ rule.find q d = some (key, v) ∧ d.accepts key = true := by
  rw [claim?]
  cases rule.find q d with
  | none => simp
  | some e =>
    obtain ⟨k, w⟩ := e
    simp only [Option.map_eq_some_iff, Option.filter_eq_some_iff, Bool.and_eq_true, beq_iff_eq,
      Option.some.injEq, Prod.mk.injEq]
    constructor
    · rintro ⟨_, ⟨rfl, rfl, haccepts⟩, rfl⟩
      exact ⟨⟨rfl, rfl⟩, haccepts⟩
    · rintro ⟨⟨rfl, rfl⟩, haccepts⟩
      exact ⟨_, ⟨rfl, rfl, haccepts⟩, rfl⟩

/-- A rule adds its finding, unless the key is taken. -/
theorem get?_apply (found : Filters) (rule : Rule) :
    (apply q d found rule).get? key = (found.get? key).or (claim? q d key rule) := by
  unfold apply claim?
  cases rule.find q d with
  | none => simp
  | some e =>
    obtain ⟨k, w⟩ := e
    by_cases hk : k = key
    · subst hk
      cases htaken : found.get? k <;> cases haccepts : d.accepts k <;>
        simp [Filters.contains_eq_isSome, Option.filter_some, htaken, haccepts]
    · dsimp only
      split <;> simp [Option.filter_some, hk]

/-- The first rule that claims a key has it. -/
theorem get?_foldl_apply (rules : List Rule) (found : Filters) :
    (rules.foldl (apply q d) found).get? key =
      (found.get? key).or (rules.findSome? (claim? q d key)) := by
  -- What has been found so far grows with each rule, so the induction is over all of it.
  induction rules generalizing found with
  | nil => simp
  | cons rule rest ih =>
    rw [List.foldl_cons, ih, get?_apply, Option.or_assoc, List.findSome?_cons]
    cases claim? q d key rule <;> rfl

theorem get?_filters : (filters q d).get? key = rules.findSome? (claim? q d key) :=
  get?_foldl_apply rules .empty

/-- The filters are what the rules have found, under keys that the domain accepts. No finding is
lost to another rule, since no other rule has its key. -/
theorem mem_filters_iff : (key, v) ∈ (filters q d).entries ↔
    d.accepts key = true ∧ ∃ rule ∈ rules, rule.find q d = some (key, v) := by
  rw [Filters.mem_entries_iff, get?_filters]
  constructor
  · intro h
    obtain ⟨rule, hrule, hclaim⟩ := List.exists_of_findSome?_eq_some h
    obtain ⟨hfind, haccepts⟩ := claim?_eq_some_iff.1 hclaim
    exact ⟨haccepts, rule, hrule, hfind⟩
  · rintro ⟨haccepts, rule, hrule, hfind⟩
    have hclaimed : (rules.findSome? (claim? q d key)).isSome := by
      rw [List.findSome?_isSome_iff]
      exact ⟨rule, hrule, Option.isSome_of_eq_some (claim?_eq_some_iff.2 ⟨hfind, haccepts⟩)⟩
    obtain ⟨w, hw⟩ := Option.isSome_iff_exists.1 hclaimed
    obtain ⟨other, hother, hclaim⟩ := List.exists_of_findSome?_eq_some hw
    obtain ⟨hfound, -⟩ := claim?_eq_some_iff.1 hclaim
    obtain rfl : rule = other :=
      eq_of_find hrule hother hfind (form_of_mem_rules hother hfound).name_eq.symm
    obtain rfl : v = w := by simpa [hfind] using hfound
    exact hw

/-- The forms of what the rules find. -/
inductive Finding (q : Question) (d : Domain) : String → Scalar → Prop where
  | text {key : String} (hkey : key ∈ textKeys) (s : String) : Finding q d key (.text s)
  | year (n : Int64) : Finding q d "year" (.integer n)
  | amount {field : Field} {key : String} {x : Float} (hfield : d.amountField? = some field)
      (hkey : key ∈ comparisonKeys field) (hfound : amount? q d = some (key, .ofFloat x)) :
      Finding q d key (.ofFloat x)

theorem Form.finding {name : String} (h : Form q d name key v) : Finding q d key v := by
  have hministries : ∀ k ∈ ["ministry", "ministries"], k ∈ textKeys := by decide
  cases h with
  | year hyear => exact .year _
  | amount hfield hkey hfound => exact .amount hfield hkey hfound
  | ministry hkey he => exact .text (hministries _ hkey) _
  | project s | department he hnone | status hf hallows | transactionType hf hallows | order s =>
    exact .text (by decide) _

theorem finding_of_mem_rules {rule : Rule} (hrule : rule ∈ rules)
    (h : rule.find q d = some (key, v)) : Finding q d key v :=
  (form_of_mem_rules hrule h).finding

theorem finding_of_mem_filters (h : (key, v) ∈ (filters q d).entries) :
    d.accepts key = true ∧ Finding q d key v := by
  obtain ⟨haccepts, rule, hrule, hfind⟩ := mem_filters_iff.1 h
  exact ⟨haccepts, finding_of_mem_rules hrule hfind⟩

theorem Finding.ne_searchKey (h : Finding q d key v) : key ≠ FilterKey.searchKey := by
  cases h with
  | text hkey s =>
    rintro rfl
    exact absurd hkey (by decide)
  | year n => decide
  | amount hfield hkey hfound => exact comparisonKey_ne hkey (by decide)

/-- No rule searches for words. -/
theorem get?_searchKey_filters (q : Question) (d : Domain) :
    (filters q d).get? FilterKey.searchKey = none := by
  rw [Option.eq_none_iff_forall_ne_some]
  intro v hv
  obtain ⟨-, hfinding⟩ :=
    finding_of_mem_filters (Filters.mem_entries_iff (e := (FilterKey.searchKey, v)).2 hv)
  exact hfinding.ne_searchKey rfl

/-- Under the key of a comparison stands nothing but the amount. -/
theorem Finding.amount?_eq_some {field : Field} (h : Finding q d key v)
    (hkey : key ∈ comparisonKeys field) : amount? q d = some (key, v) := by
  cases h with
  | text hfixed s => exact absurd rfl (comparisonKey_ne hkey (by simp [fixedKeys, hfixed]))
  | year n => exact absurd rfl (comparisonKey_ne hkey (by decide))
  | amount hfield hkey hfound => exact hfound

theorem mem_filters_of_amount? (h : amount? q d = some (key, v)) (haccepts : d.accepts key = true) :
    (key, v) ∈ (filters q d).entries :=
  mem_filters_iff.2 ⟨haccepts, ⟨"amount", amount?⟩, by simp [rules], h⟩

end CivicReport.Extraction
