import CivicReport.Registry.Municipal
import CivicReport.Proofs.Question.Findings

/-!
The rules together. No two of them ever find something under one key, so each has what it finds and
takes nothing from the others. Main statements: the filters of a question are as their keys want
them, and they are the same in whatever order the rules are applied.
-/
namespace CivicReport.Extraction

variable {q : Question} {d : Domain} {key : String} {v : Scalar}

/-! Values. -/

/-- A filter as its key wants it. -/
structure WellFormed (q : Question) (d : Domain) (key : String) (v : Scalar) : Prop where
  accepted : d.accepts key = true
  year : key = "year" → ∃ n : Int64, v = .integer n ∧ 1900 ≤ n.toInt ∧ n.toInt ≤ 2099
  allowed : key ∈ ["status", "transaction_type"] →
    ∃ f s, d.field? key = some f ∧ v = .text s ∧ f.allows s = true
  department : key = "department" → (∃ e ∈ Vocabulary.departments, v = .text e.name) ∧
    NamesNone Vocabulary.ministries q.folded
  ministry : key ∈ ["ministry", "ministries"] → ∃ e ∈ Vocabulary.ministries, v = .text e.name
  /-- The numbers of projects and orders have fixed keys as well, and a search is never found. -/
  amount : key ∉ "year" :: textKeys → ∃ field, d.amountField? = some field ∧
    (key = field.key ++ FilterKey.aboveSuffix ∨ key = field.key ++ FilterKey.belowSuffix)

theorem Form.wellFormed {name : String} (haccepts : d.accepts key = true)
    (h : Form q d name key v) : WellFormed q d key v := by
  cases h with
  | project s =>
    exact ⟨haccepts, by simp, by simp, by simp, by simp, by simp [textKeys]⟩
  | year hyear =>
    exact ⟨haccepts, fun _ => ⟨_, rfl, hyear⟩, by simp, by simp, by simp, by simp⟩
  | ministry hkey he =>
    simp only [List.mem_cons, List.not_mem_nil, or_false] at hkey
    rcases hkey with rfl | rfl
    · exact ⟨haccepts, by simp, by simp, by simp, fun _ => ⟨_, he, rfl⟩, by simp [textKeys]⟩
    · exact ⟨haccepts, by simp, by simp, by simp, fun _ => ⟨_, he, rfl⟩, by simp [textKeys]⟩
  | department he hnone =>
    exact ⟨haccepts, by simp, by simp, fun _ => ⟨⟨_, he, rfl⟩, hnone⟩, by simp,
      by simp [textKeys]⟩
  | amount hfield hkey hfound =>
    have hfixed : key ∉ fixedKeys := fun hmem => comparisonKey_ne hkey hmem rfl
    simp only [fixedKeys, textKeys, List.mem_cons, List.not_mem_nil, or_false, not_or] at hfixed
    refine ⟨haccepts, ?_, ?_, ?_, ?_, fun _ => ⟨_, hfield, by simpa [comparisonKeys] using hkey⟩⟩
    · simp [hfixed]
    · simp [hfixed]
    · simp [hfixed]
    · simp [hfixed]
  | status hf hallows =>
    exact ⟨haccepts, by simp, fun _ => ⟨_, _, hf, rfl, hallows⟩, by simp, by simp,
      by simp [textKeys]⟩
  | transactionType hf hallows =>
    exact ⟨haccepts, by simp, fun _ => ⟨_, _, hf, rfl, hallows⟩, by simp, by simp,
      by simp [textKeys]⟩
  | order s =>
    exact ⟨haccepts, by simp, by simp, by simp, by simp, by simp [textKeys]⟩

/-- Every filter that the rules find is as its key wants it, and no field is compared in both
directions. -/
theorem wellFormed_filters (q : Question) (d : Domain) :
    (∀ e ∈ (filters q d).entries, WellFormed q d e.1 e.2) ∧
      ∀ field : Field, field.key ++ FilterKey.aboveSuffix ∈ (filters q d).keys →
        field.key ++ FilterKey.belowSuffix ∉ (filters q d).keys := by
  constructor
  · rintro ⟨key, v⟩ he
    obtain ⟨haccepts, rule, hrule, hfind⟩ := mem_filters_iff.1 he
    exact (form_of_mem_rules hrule hfind).wellFormed haccepts
  · intro field habove hbelow
    have hamount {key : String} (hkey : key ∈ comparisonKeys field)
        (hmem : key ∈ (filters q d).keys) : ∃ v, amount? q d = some (key, v) := by
      obtain ⟨⟨_, v⟩, hv, rfl⟩ := List.mem_map.1 hmem
      exact ⟨v, (finding_of_mem_filters hv).2.amount?_eq_some hkey⟩
    obtain ⟨v, hv⟩ := hamount (by simp [comparisonKeys]) habove
    obtain ⟨w, hw⟩ := hamount (by simp [comparisonKeys]) hbelow
    have hkeys := congrArg Prod.fst (Option.some.inj (hv.symm.trans hw))
    exact FilterKey.append_aboveSuffix_ne_append_belowSuffix field.key field.key hkeys

theorem wellFormed_filters_spending :
    let q := Question.ofText "הוצאות מעל 5000 בשנת 2024"
    let amount : Field := { key := "amount", label := "סכום", kind := .currency }
    (("year", .integer 2024) ∈ (filters q Registry.transactions).entries ∧
      WellFormed q Registry.transactions "year" (.integer 2024)) ∧
    amount.key ++ FilterKey.aboveSuffix ∈ (filters q Registry.transactions).keys ∧
      amount.key ++ FilterKey.belowSuffix ∉ (filters q Registry.transactions).keys := by
  intro q amount
  have hyear : ("year", .integer 2024) ∈ (filters q Registry.transactions).entries := by
    rw [Filters.mem_entries_iff, get?_filters]
    decide +kernel
  have habove : amount.key ++ FilterKey.aboveSuffix ∈ (filters q Registry.transactions).keys := by
    have hkey : (amount? q Registry.transactions).map (·.1) = some "amount_gt" := by decide +kernel
    obtain ⟨⟨_, v⟩, hv, rfl⟩ := Option.map_eq_some_iff.1 hkey
    exact List.mem_map.2 ⟨_, mem_filters_of_amount? hv (by decide), rfl⟩
  obtain ⟨hentries, hapart⟩ := wellFormed_filters q Registry.transactions
  exact ⟨⟨hyear, hentries _ hyear⟩, habove, hapart amount habove⟩

/-! Order. -/

/-- A rule finds something under a key, in some question about some domain. -/
def Rule.Finds (rule : Rule) (key : String) : Prop := ∃ q d v, rule.find q d = some (key, v)

/-- Two rules never find anything under one key. -/
def Rule.Apart (a b : Rule) : Prop := ∀ key, a.Finds key → ¬ b.Finds key

section Order

variable {a b : Rule} {table : List Rule}

theorem apart_of_mem_rules (ha : a ∈ rules) (hb : b ∈ rules) (hne : a ≠ b) : a.Apart b := by
  rintro key ⟨q, d, v, hfind⟩ ⟨p, c, w, hother⟩
  exact hne (eq_of_find ha hb hfind (form_of_mem_rules hb hother).name_eq.symm)

theorem Rule.Apart.claim?_eq_none (h : a.Apart b) (q : Question) (d : Domain) (key : String) :
    claim? q d key a = none ∨ claim? q d key b = none := by
  by_contra! hboth
  obtain ⟨v, hv⟩ := Option.ne_none_iff_exists'.1 hboth.1
  obtain ⟨w, hw⟩ := Option.ne_none_iff_exists'.1 hboth.2
  exact h key ⟨q, d, v, (claim?_eq_some_iff.1 hv).1⟩ ⟨q, d, w, (claim?_eq_some_iff.1 hw).1⟩

/-- Rules that are apart can be applied either way round. -/
theorem Rule.Apart.apply_comm (h : a.Apart b) (q : Question) (d : Domain) (found : Filters) :
    apply q d (apply q d found a) b = apply q d (apply q d found b) a := by
  refine Filters.ext_get? fun key v => ?_
  rw [get?_apply, get?_apply, get?_apply, get?_apply, Option.or_assoc, Option.or_assoc]
  rcases h.claim?_eq_none q d key with hnone | hnone
  · rw [hnone, Option.none_or, Option.or_none]
  · rw [hnone, Option.none_or, Option.or_none]

theorem pairwise_apart (h : table.Perm rules) : table.Pairwise Rule.Apart := by
  have hnodup : table.Nodup := h.nodup_iff.2 (nodup_name_rules.of_map _)
  exact hnodup.pairwise_of_forall_ne fun a ha b hb =>
    apart_of_mem_rules (h.mem_iff.1 ha) (h.mem_iff.1 hb)

/-- No two rules ever find anything under one key, and so the rules find the same filters in
whatever order they are applied. -/
theorem filtersBy_eq_of_perm (h : table.Perm rules) : table.Pairwise Rule.Apart ∧
    ∀ (q : Question) (d : Domain), filtersBy table q d = filters q d := by
  refine ⟨pairwise_apart h, fun q d => ?_⟩
  rw [filters, filtersBy, filtersBy]
  refine h.foldl_eq' (fun a ha b hb found => ?_) Filters.empty
  by_cases heq : a = b
  · rw [heq]
  · exact (apart_of_mem_rules (h.mem_iff.1 ha) (h.mem_iff.1 hb) heq).apply_comm q d found

theorem filtersBy_reverse_rules : rules.reverse.Perm rules ∧
    rules.reverse.Pairwise Rule.Apart ∧
      ∀ (q : Question) (d : Domain), filtersBy rules.reverse q d = filters q d :=
  ⟨rules.reverse_perm, filtersBy_eq_of_perm rules.reverse_perm⟩

end Order

end CivicReport.Extraction
