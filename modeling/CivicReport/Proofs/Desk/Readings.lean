import CivicReport.Desk
import CivicReport.Registry.Municipal
import CivicReport.Proofs.Question.Findings
import CivicReport.Proofs.Question.Ranking
import CivicReport.Proofs.Registry.Acceptance
import CivicReport.Proofs.Vetting.Acceptance

/-!
Readings of questions by rules. Rules use only keys that the domain accepts, and their confidence
stays in range, so vetting never takes a reading back. Main statement: a question that is neither
empty nor too long is read, and the strictest vetting has nothing to remark on what comes out.
-/
namespace CivicReport

theorem Domain.accepts_searchKey (d : Domain) : d.accepts FilterKey.searchKey = true := by
  rw [Domain.accepts, FilterKey.read_of_reads .search]

/-- Below ten tenths there are few scores and numbers of filters, and from there on the cap. -/
theorem Confidence.checkConfidence_ofTenths (tenths filters : Nat) :
    Vetting.checkConfidence (ofTenths tenths filters) = .ok () := by
  have hfew : ∀ tenths < 10, ∀ filters < 10 - tenths,
      Vetting.checkConfidence (ofScore (Ranking.inUnits tenths) filters) = .ok () := by
    decide +kernel
  unfold ofTenths
  split
  · decide
  · exact hfew tenths (by omega) filters (by omega)

theorem Confidence.checkConfidence_fallback : Vetting.checkConfidence fallback = .ok () := by
  decide

theorem Registry.ofDomains_municipal : ofDomains municipal.domains = .ok municipal := by
  rfl

theorem Registry.named_municipal : ∀ d ∈ municipal.domains, Text.trimmed d.key ≠ "" := by decide

namespace Interpretation

variable {r : Registry} {q : Question} {i : Intent} {d : Domain}

/-- A search for the whole question and no other filter. -/
def searchAlone (q : Question) : Filters :=
  Filters.empty.insert FilterKey.searchKey (.text q.rawText)

theorem entries_searchAlone (q : Question) :
    (searchAlone q).entries = [(FilterKey.searchKey, .text q.rawText)] := rfl

theorem filtersOrSearch_cases (r : Registry) (q : Question) (found : Filters) :
    filtersOrSearch r q found = found ∨ filtersOrSearch r q found = searchAlone q := by
  unfold filtersOrSearch
  split
  · next hnone =>
    simp only [Bool.and_eq_true, Filters.isEmpty, List.isEmpty_iff] at hnone
    have hempty : found = .empty := Filters.ext_entries hnone.1.1
    exact .inr (hempty ▸ rfl)
  · exact .inl rfl

/-- A reading by rules is about the domain of the registry that fits best. -/
theorem exists_of_byRules? (h : byRules? r q = some i) :
    ∃ d ∈ r.domains, i = intentIn r q d (Ranking.score q d) := by
  obtain ⟨best, hbest, h⟩ := Option.bind_eq_some_iff.1 h
  obtain ⟨before, after, hsplit, -⟩ := Ranking.exists_split_of_best? hbest
  have hmem : best ∈ Ranking.scores r q := by simp [hsplit]
  obtain ⟨d, hd, rfl⟩ := List.mem_map.1 hmem
  split at h
  · contradiction
  · exact ⟨d, hd, (Option.some.inj h).symm⟩

/-- A filter of a reading is a finding of the rules or the search for the whole question. -/
theorem of_mem_filters_intentIn {score : Nat} {e : String × Scalar}
    (h : e ∈ (intentIn r q d score).filters.entries) : d.accepts e.1 = true ∧
      (Extraction.Finding q d e.1 e.2 ∨ e = (FilterKey.searchKey, .text q.rawText)) := by
  change e ∈ (filtersOrSearch r q (Extraction.filters q d)).entries at h
  rcases filtersOrSearch_cases r q (Extraction.filters q d) with hfilters | hfilters
  · rw [hfilters] at h
    obtain ⟨haccepts, hfinding⟩ := Extraction.finding_of_mem_filters h
    exact ⟨haccepts, .inl hfinding⟩
  · rw [hfilters, entries_searchAlone] at h
    obtain rfl := List.mem_singleton.1 h
    exact ⟨d.accepts_searchKey, .inr rfl⟩

theorem accepts_of_mem_keys_intentIn {score : Nat} {key : String}
    (h : key ∈ (intentIn r q d score).filters.keys) : d.accepts key = true := by
  obtain ⟨e, he, rfl⟩ := List.mem_map.1 h
  exact (of_mem_filters_intentIn he).1

/-- No rule finds a search, so a search is there only where nothing is found. -/
theorem filters_eq_searchAlone {score : Nat}
    (h : FilterKey.searchKey ∈ (intentIn r q d score).filters.keys) :
    (intentIn r q d score).filters = searchAlone q := by
  change FilterKey.searchKey ∈ (filtersOrSearch r q (Extraction.filters q d)).keys at h
  rcases filtersOrSearch_cases r q (Extraction.filters q d) with hfilters | hfilters
  · rw [hfilters] at h
    obtain ⟨v, hv⟩ := Filters.mem_keys_iff.1 h
    rw [Extraction.get?_searchKey_filters] at hv
    contradiction
  · exact hfilters

/-- What the rules find leaves no room for a search. -/
theorem mem_filters_intentIn {score : Nat} {e : String × Scalar}
    (h : e ∈ (Extraction.filters q d).entries) : e ∈ (intentIn r q d score).filters.entries := by
  change e ∈ (filtersOrSearch r q (Extraction.filters q d)).entries
  have hsome : (Extraction.filters q d).isEmpty = false := by
    rw [Filters.isEmpty, List.isEmpty_eq_false_iff]
    exact List.ne_nil_of_mem h
  simpa [filtersOrSearch, hsome] using h

/-- One strong word of one domain is enough for the rules. -/
theorem exists_byRules?_of_primaryWord {word : String} (hd : d ∈ r.domains)
    (hword : word ∈ d.primaryWords) (hq : q.contains (Folding.foldText word) = true) :
    ∃ i, byRules? r q = some i := by
  have hpresent : 0 < Ranking.present q d.primaryWords :=
    List.length_pos_of_mem (List.mem_filter.2 ⟨hword, hq⟩)
  have hscore : Ranking.least ≤ Ranking.score q d := by
    unfold Ranking.least Ranking.score
    omega
  obtain ⟨best, -, hbest⟩ := Ranking.exists_isFirstBest (q := q) (List.ne_nil_of_mem hd)
  have hmost : Ranking.least ≤ Ranking.score q best := Nat.le_trans hscore (hbest.highest d hd)
  exact ⟨_, (byRules?_of_isFirstBest hbest).trans (if_neg (Nat.not_lt.2 hmost))⟩

end Interpretation

namespace Desk

open Interpretation

variable {domains : List Domain} {r : Registry} {q : Question} {d : Domain}

theorem check_intentIn (hr : Registry.ofDomains domains = .ok r)
    (hnamed : ∀ d ∈ domains, Text.trimmed d.key ≠ "") (hd : d ∈ r.domains) (score : Nat)
    (s : Strictness) : Vetting.check s r (intentIn r q d score) = .ok [] := by
  have hkey : Text.trimmed (intentIn r q d score).domain ≠ "" :=
    hnamed d (Registry.domains_of_ofDomains hr ▸ hd)
  have hdomain : r.domain? (intentIn r q d score).domain = some d := Registry.domain?_of_mem hr hd
  have hconfidence : Vetting.checkConfidence (intentIn r q d score).confidence = .ok () :=
    Confidence.checkConfidence_ofTenths score (Extraction.filters q d).size
  have haccepts : ∀ key ∈ (intentIn r q d score).filters.keys, d.accepts key = true :=
    fun _ => accepts_of_mem_keys_intentIn
  exact Vetting.check_eq_ok_nil hkey hdomain hconfidence haccepts rfl s

theorem check_fallback (hr : Registry.ofDomains domains = .ok r)
    (hnamed : ∀ d ∈ domains, Text.trimmed d.key ≠ "") (s : Strictness) :
    Vetting.check s r (fallback r q) = .ok [] := by
  have hmem := Registry.fallback_mem_of_ofDomains hr
  have hkey : Text.trimmed (fallback r q).domain ≠ "" :=
    hnamed _ (Registry.domains_of_ofDomains hr ▸ hmem)
  have hdomain : r.domain? (fallback r q).domain = some r.fallback :=
    Registry.domain?_of_mem hr hmem
  have hconfidence : Vetting.checkConfidence (fallback r q).confidence = .ok () :=
    Confidence.checkConfidence_fallback
  refine Vetting.check_eq_ok_nil hkey hdomain hconfidence (fun key h => ?_) rfl s
  obtain rfl : key = FilterKey.searchKey := List.mem_singleton.1 h
  exact r.fallback.accepts_searchKey

/-- Vetting never takes back what the rules read. -/
theorem readByRules_eq_getD (hr : Registry.ofDomains domains = .ok r)
    (hnamed : ∀ d ∈ domains, Text.trimmed d.key ≠ "") :
    readByRules r q = (byRules? r q).getD (fallback r q) := by
  unfold readByRules
  cases hrules : byRules? r q with
  | none => rfl
  | some i =>
    obtain ⟨d, hd, rfl⟩ := exists_of_byRules? hrules
    simp only [check_intentIn hr hnamed hd]
    rfl

/-- Nothing in an intent is remarked on by either vetting. -/
structure Clean (r : Registry) (i : Intent) : Prop where
  lenient : Vetting.check .lenient r i = .ok []
  strict : Vetting.check .strict r i = .ok []
  fields : i.fields = []

/-- An intent that rules have read: its domain accepts all filters, and a search stands alone. -/
structure IsByRules (r : Registry) (text : String) (i : Intent) : Prop where
  source : i.source = .rules
  accepted : ∃ d, r.domain? i.domain = some d ∧ ∀ key ∈ i.filters.keys, d.accepts key = true
  search : FilterKey.searchKey ∈ i.filters.keys →
    i.filters.entries = [(FilterKey.searchKey, .text (Text.trimmed text))]

/-- A list of the fallback domain that is searched for the question. -/
structure IsFallback (r : Registry) (text : String) (i : Intent) : Prop where
  source : i.source = .fallback
  domain : i.domain = r.fallback.key
  action : i.action = .list
  filters : i.filters.entries = [(FilterKey.searchKey, .text (Text.trimmed text))]
  confidence : i.confidence = 0.5

/-- Whatever is read is of a domain of the registry, with filters that this domain accepts. -/
theorem exists_domain_readByRules (hr : Registry.ofDomains domains = .ok r)
    (hnamed : ∀ d ∈ domains, Text.trimmed d.key ≠ "") (q : Question) :
    ∃ d ∈ r.domains, (readByRules r q).domain = d.key ∧
      ∀ e ∈ (readByRules r q).filters.entries, d.accepts e.1 = true ∧
        (Extraction.Finding q d e.1 e.2 ∨ e = (FilterKey.searchKey, .text q.rawText)) := by
  rw [readByRules_eq_getD hr hnamed]
  cases hrules : byRules? r q with
  | none =>
    refine ⟨r.fallback, Registry.fallback_mem_of_ofDomains hr, rfl, fun e he => ?_⟩
    obtain rfl : e = (FilterKey.searchKey, .text q.rawText) := List.mem_singleton.1 he
    exact ⟨r.fallback.accepts_searchKey, .inr rfl⟩
  | some i =>
    obtain ⟨d, hd, rfl⟩ := exists_of_byRules? hrules
    exact ⟨d, hd, rfl, fun e => of_mem_filters_intentIn⟩

theorem clean_readByRules (hr : Registry.ofDomains domains = .ok r)
    (hnamed : ∀ d ∈ domains, Text.trimmed d.key ≠ "") : Clean r (readByRules r q) := by
  rw [readByRules_eq_getD hr hnamed]
  cases hrules : byRules? r q with
  | none =>
    exact ⟨check_fallback hr hnamed .lenient, check_fallback hr hnamed .strict, rfl⟩
  | some i =>
    obtain ⟨d, hd, rfl⟩ := exists_of_byRules? hrules
    exact ⟨check_intentIn hr hnamed hd _ .lenient, check_intentIn hr hnamed hd _ .strict, rfl⟩

theorem isByRules_or_isFallback (hr : Registry.ofDomains domains = .ok r)
    (hnamed : ∀ d ∈ domains, Text.trimmed d.key ≠ "") (text : String) :
    IsByRules r text (readByRules r (Question.ofText text)) ∨
      IsFallback r text (readByRules r (Question.ofText text)) := by
  rw [readByRules_eq_getD hr hnamed]
  cases hrules : byRules? r (Question.ofText text) with
  | none => exact .inr ⟨rfl, rfl, rfl, rfl, rfl⟩
  | some i =>
    obtain ⟨d, hd, rfl⟩ := exists_of_byRules? hrules
    refine .inl ⟨rfl, ⟨d, Registry.domain?_of_mem hr hd, fun _ => accepts_of_mem_keys_intentIn⟩,
      fun hsearch => ?_⟩
    exact congrArg Filters.entries (filters_eq_searchAlone hsearch)

theorem parseByRules_eq (r : Registry) (longest : Nat) (text : String) :
    parseByRules r longest text =
      if Text.trimmed text = "" then .error (.request .emptyQuestion)
      else if longest < text.length then
        .error (.interpretation ("query longer than " ++ natText longest ++ " characters"))
      else .ok (readByRules r (Question.ofText text)) := by
  unfold parseByRules prepare
  simp only [Text.trimmed_eq_empty_iff]
  split
  · rfl
  · split <;> rfl

theorem parseByRules_eq_ok_iff {longest : Nat} {text : String} {i : Intent} :
    parseByRules r longest text = .ok i ↔ Text.trimmed text ≠ "" ∧ text.length ≤ longest ∧
      readByRules r (Question.ofText text) = i := by
  rw [parseByRules_eq]
  split
  · next hempty => simp [hempty]
  · next hwords =>
    split
    · next hlong => simp [Nat.not_le.2 hlong]
    · next hshort => simp [hwords, Nat.not_lt.1 hshort]

/-- Reading by rules refuses empty and overlong questions and nothing else. What it reads is clean,
and it is either the fallback or fits its domain. -/
theorem parseByRules_clean (hr : Registry.ofDomains domains = .ok r)
    (hnamed : ∀ d ∈ domains, Text.trimmed d.key ≠ "") (longest : Nat) (text : String) :
    (parseByRules r longest text = .error (.request .emptyQuestion) ↔ Text.trimmed text = "") ∧
      ((∃ detail, parseByRules r longest text = .error (.interpretation detail)) ↔
        Text.trimmed text ≠ "" ∧ longest < text.length) ∧
      (Text.trimmed text ≠ "" → text.length ≤ longest →
        ∃ i, parseByRules r longest text = .ok i ∧ Clean r i ∧
          (IsByRules r text i ∨ IsFallback r text i)) := by
  rw [parseByRules_eq]
  refine ⟨?_, ?_, fun hwords hshort => ?_⟩
  · split
    · next hempty => simp [hempty]
    · next hwords => split <;> simp [hwords]
  · split
    · next hempty => simp [hempty]
    · next hwords => split <;> simp [*]
  · rw [if_neg hwords, if_neg (Nat.not_lt.2 hshort)]
    exact ⟨_, rfl, clean_readByRules hr hnamed, isByRules_or_isFallback hr hnamed text⟩

theorem parseByRules_clean_municipal :
    Registry.ofDomains Registry.municipal.domains = .ok Registry.municipal ∧
      ∃ i, parseByRules Registry.municipal 500 "חשבוניות מעל 5000" = .ok i ∧
        Clean Registry.municipal i ∧
        (IsByRules Registry.municipal "חשבוניות מעל 5000" i ∨
          IsFallback Registry.municipal "חשבוניות מעל 5000" i) :=
  ⟨Registry.ofDomains_municipal,
    (parseByRules_clean Registry.ofDomains_municipal Registry.named_municipal 500
      "חשבוניות מעל 5000").2.2 (by decide) (by decide)⟩

end Desk

end CivicReport
