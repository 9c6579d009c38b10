import CivicReport.Proofs.Decimal.Digits
import CivicReport.Proofs.Filters.Reading
import CivicReport.Proofs.Question.Numbers
import Mathlib.Data.List.Nodup

/-!
What each rule finds: the keys that it uses, and the values under them. Main statements: every
finding has a form that belongs to its rule, and no two rules have a key in common, whatever the
questions and the domains are.
-/
namespace CivicReport.Extraction

variable {q : Question} {d : Domain} {key name : String} {v : Scalar}

/-! Keys. -/

/-- The keys of findings that are texts. -/
def textKeys : List String :=
  ["tabar_number", "ministry", "ministries", "department", "status", "transaction_type",
    "order_number"]

/-- The keys of a comparison of a field. -/
def comparisonKeys (field : Field) : List String :=
  [field.key ++ FilterKey.aboveSuffix, field.key ++ FilterKey.belowSuffix]

/-- Keys that are the same in every domain. -/
def fixedKeys : List String := FilterKey.searchKey :: "year" :: textKeys

theorem comparisonKey_ne {field : Field} {fixed : String} (hkey : key ∈ comparisonKeys field)
    (hfixed : fixed ∈ fixedKeys) : key ≠ fixed := by
  have habove : ∀ fixed ∈ fixedKeys, ¬ FilterKey.aboveSuffix.toList <:+ fixed.toList := by decide
  have hbelow : ∀ fixed ∈ fixedKeys, ¬ FilterKey.belowSuffix.toList <:+ fixed.toList := by decide
  simp only [comparisonKeys, List.mem_cons, List.not_mem_nil, or_false] at hkey
  rcases hkey with rfl | rfl
  · exact FilterKey.append_ne (habove fixed hfixed)
  · exact FilterKey.append_ne (hbelow fixed hfixed)

/-! Values. -/

section Lookup

variable {table : List Vocabulary.Entry} {s : List Char}

theorem exists_of_lookup? (h : Vocabulary.lookup? table s = some name) :
    ∃ e ∈ table, e.name = name := by
  obtain ⟨e, he, rfl⟩ := Option.map_eq_some_iff.1 h
  exact ⟨e, List.mem_of_find?_eq_some he, rfl⟩

/-- None of the phrases of a table stands in a folded text. -/
def NamesNone (table : List Vocabulary.Entry) (s : List Char) : Prop :=
  ∀ e ∈ table, ∀ phrase ∈ e.variants, ¬ Folding.foldText phrase <:+: s

theorem lookup?_eq_none_iff : Vocabulary.lookup? table s = none ↔ NamesNone table s := by
  simp [Vocabulary.lookup?, NamesNone, ← Text.occursIn_iff]

end Lookup

/-- Digits of other scripts are matched in years but not read. -/
theorem IsYear.toInt_mem {num : List Char} {n : Int64} (hnum : IsYear num)
    (h : readInt64? num = some n) : 1900 ≤ n.toInt ∧ n.toInt ≤ 2099 := by
  obtain ⟨century, hcentury, rest, rfl, hlength, -⟩ := hnum
  have hcenturies : ∀ t ∈ ["19", "20"], (∃ c s, t.toList = c :: s ∧ isAsciiDigit c = true) ∧
      (Nat.ofDigitChars 10 t.toList 0 = 19 ∨ Nat.ofDigitChars 10 t.toList 0 = 20) := by
    simp only [List.forall_mem_cons, List.not_mem_nil, false_implies, implies_true, and_true]
    exact ⟨⟨⟨_, _, rfl, by decide⟩, .inl (by decide)⟩, ⟨_, _, rfl, by decide⟩, .inr (by decide)⟩
  obtain ⟨⟨c, s, hcs, hc⟩, hvalue⟩ := hcenturies century hcentury
  have hfirst : ∀ x ∈ (century.toList ++ rest).head?, isAsciiDigit x = true := by
    rw [hcs]
    rintro x hx
    obtain rfl : c = x := Option.some.inj hx
    exact hc
  obtain ⟨k, hk, hn⟩ := exists_readNat?_of_readInt64? hfirst h
  have hdigits := isAsciiDigit_of_readNat? hk
  have hne : century.toList ++ rest ≠ [] := by simp [hcs]
  rw [readNat?_of_forall_isAsciiDigit hne hdigits, Nat.ofDigitChars_append] at hk
  obtain rfl := Option.some.inj hk
  have hleast := le_ofDigitChars rest (Nat.ofDigitChars 10 century.toList 0)
  have hmost := ofDigitChars_lt (fun x hx => hdigits x (List.mem_append_right _ hx))
    (Nat.ofDigitChars 10 century.toList 0)
  rw [hlength] at hleast hmost
  rcases hvalue with hvalue | hvalue
  · rw [hvalue] at hn hleast hmost
    omega
  · rw [hvalue] at hn hleast hmost
    omega

/-- A status that is read is one of the table, and the field allows it. -/
theorem exists_phrase_of_statusIn? {field : Field} {phrases : List Vocabulary.Phrase}
    {s : List Char} {value : String} (h : statusIn? field phrases s = some value) :
    ∃ phrase ∈ phrases, phrase.value = value ∧ field.allows value = true := by
  induction phrases generalizing s with
  | nil => contradiction
  | cons phrase phrases ih =>
    have hlater {s : List Char} (h : statusIn? field phrases s = some value) :
        ∃ p ∈ phrase :: phrases, p.value = value ∧ field.allows value = true := by
      obtain ⟨p, hp, hvalue⟩ := ih h
      exact ⟨p, List.mem_cons_of_mem _ hp, hvalue⟩
    rw [statusIn?] at h
    split at h
    · split at h
      · next hallows =>
        obtain rfl := Option.some.inj h
        exact ⟨phrase, List.mem_cons_self, rfl, hallows⟩
      · exact hlater h
    · exact hlater h

/-! Forms. -/

/-- The forms of what the rule with a name finds. -/
inductive Form (q : Question) (d : Domain) : String → String → Scalar → Prop where
  | project (s : String) : Form q d "tabar_number" "tabar_number" (.text s)
  | year {n : Int64} (hyear : 1900 ≤ n.toInt ∧ n.toInt ≤ 2099) :
      Form q d "year" "year" (.integer n)
  | ministry {key : String} (hkey : key ∈ ["ministry", "ministries"]) {e : Vocabulary.Entry}
      (he : e ∈ Vocabulary.ministries) : Form q d "department" key (.text e.name)
  | department {e : Vocabulary.Entry} (he : e ∈ Vocabulary.departments)
      (hnone : NamesNone Vocabulary.ministries q.folded) :
      Form q d "department" "department" (.text e.name)
  | amount {field : Field} {key : String} {x : Float} (hfield : d.amountField? = some field)
      (hkey : key ∈ comparisonKeys field) (hfound : amount? q d = some (key, .ofFloat x)) :
      Form q d "amount" key (.ofFloat x)
  | status {f : Field} {s : String} (hf : d.field? "status" = some f)
      (hallows : f.allows s = true) : Form q d "status" "status" (.text s)
  | transactionType {f : Field} {s : String} (hf : d.field? "transaction_type" = some f)
      (hallows : f.allows s = true) :
      Form q d "transaction_type" "transaction_type" (.text s)
  | order (s : String) : Form q d "order_number" "order_number" (.text s)

theorem form_of_project? (h : project? q d = some (key, v)) : Form q d "tabar_number" key v := by
  obtain ⟨s, -, hs⟩ := Option.map_eq_some_iff.1 h
  cases hs
  exact .project _

theorem form_of_year? (h : year? q d = some (key, v)) : Form q d "year" key v := by
  obtain ⟨c, hc, h⟩ := Option.bind_eq_some_iff.1 h
  obtain ⟨n, hn, he⟩ := Option.map_eq_some_iff.1 h
  cases he
  obtain ⟨a, opening, num, ending, b, -, -, hnum, -, rfl⟩ :=
    readsNumber_yearNumber.of_mem_numbers (List.mem_of_find?_eq_some hc)
  exact .year (hnum.toInt_mem hn)

theorem form_of_department? (h : department? q d = some (key, v)) :
    Form q d "department" key v := by
  unfold department? at h
  split at h
  · next ministry hministry =>
    obtain ⟨found, hfound, he⟩ := Option.map_eq_some_iff.1 h
    cases he
    obtain ⟨e, he, rfl⟩ := exists_of_lookup? hministry
    exact .ministry (List.mem_of_find?_eq_some hfound) he
  · next hnone =>
    obtain ⟨name, hname, he⟩ := Option.map_eq_some_iff.1 h
    cases he
    obtain ⟨e, he, rfl⟩ := exists_of_lookup? hname
    exact .department he (lookup?_eq_none_iff.1 hnone)

theorem exists_of_amount? (h : amount? q d = some (key, v)) : ∃ field, d.amountField? = some field ∧
    key ∈ comparisonKeys field ∧ ∃ x, v = .ofFloat x := by
  obtain ⟨field, hfield, h⟩ := Option.bind_eq_some_iff.1 h
  obtain ⟨m, -, h⟩ := Option.bind_eq_some_iff.1 h
  obtain ⟨number, -, h⟩ := Option.bind_eq_some_iff.1 h
  obtain ⟨x, -, hx⟩ := Option.map_eq_some_iff.1 h
  cases hx
  refine ⟨field, hfield, ?_, _, rfl⟩
  unfold directionSuffix comparisonKeys
  split <;> simp

theorem form_of_amount? (h : amount? q d = some (key, v)) : Form q d "amount" key v := by
  obtain ⟨field, hfield, hkey, x, rfl⟩ := exists_of_amount? h
  exact .amount hfield hkey h

theorem form_of_status? (h : status? q d = some (key, v)) : Form q d "status" key v := by
  obtain ⟨field, hfield, h⟩ := Option.bind_eq_some_iff.1 h
  obtain ⟨value, hvalue, he⟩ := Option.map_eq_some_iff.1 h
  cases he
  obtain ⟨-, -, -, hallows⟩ := exists_phrase_of_statusIn? hvalue
  exact .status hfield hallows

theorem form_of_transactionType? (h : transactionType? q d = some (key, v)) :
    Form q d "transaction_type" key v := by
  obtain ⟨field, hfield, h⟩ := Option.bind_eq_some_iff.1 h
  obtain ⟨phrase, hphrase, he⟩ := Option.map_eq_some_iff.1 h
  cases he
  have hfound := List.find?_some hphrase
  rw [Bool.and_eq_true] at hfound
  exact .transactionType hfield hfound.2

theorem form_of_order? (h : order? q d = some (key, v)) : Form q d "order_number" key v := by
  obtain ⟨m, -, h⟩ := Option.bind_eq_some_iff.1 h
  obtain ⟨c, -, hc⟩ := Option.map_eq_some_iff.1 h
  cases hc
  exact .order _

theorem form_of_mem_rules {rule : Rule} (hrule : rule ∈ rules)
    (h : rule.find q d = some (key, v)) : Form q d rule.name key v := by
  simp only [rules, List.mem_cons, List.not_mem_nil, or_false] at hrule
  rcases hrule with rfl | rfl | rfl | rfl | rfl | rfl | rfl
  · exact form_of_project? h
  · exact form_of_year? h
  · exact form_of_department? h
  · exact form_of_amount? h
  · exact form_of_status? h
  · exact form_of_transactionType? h
  · exact form_of_order? h

/-! Which rule a key belongs to. -/

/-- The name of the only rule that can find something under a key. Most rules are named after their
key, and every key that is not fixed is that of a comparison. -/
def ruleOf (key : String) : String :=
  if key ∈ ["ministry", "ministries"] then "department"
  else if key ∈ fixedKeys then key
  else "amount"

theorem Form.name_eq (h : Form q d name key v) : name = ruleOf key := by
  cases h with
  | ministry hkey he => simp [ruleOf, hkey]
  | amount hfield hkey hfound =>
    have hapart : ∀ fixed ∈ fixedKeys, key ≠ fixed := fun _ => comparisonKey_ne hkey
    have hfixed : key ∉ fixedKeys := fun hmem => hapart key hmem rfl
    have hministry : key ∉ ["ministry", "ministries"] := by
      have hlisted : ∀ k ∈ ["ministry", "ministries"], k ∈ fixedKeys := by decide
      exact fun hmem => hfixed (hlisted key hmem)
    rw [ruleOf, if_neg hministry, if_neg hfixed]
  | project s | year hyear | department he hnone | status hf hallows
    | transactionType hf hallows | order s => decide

theorem nodup_name_rules : (rules.map (·.name)).Nodup := by decide

theorem eq_of_find {a b : Rule} (ha : a ∈ rules) (hb : b ∈ rules)
    (h : a.find q d = some (key, v)) (hkey : ruleOf key = b.name) : a = b :=
  List.inj_on_of_nodup_map nodup_name_rules ha hb ((form_of_mem_rules ha h).name_eq.trans hkey)

end CivicReport.Extraction
