import CivicReport.Question.Interpretation
import CivicReport.Proofs.Registry.Acceptance

/-!
Which domain a question is read about. A running best gives way to a higher score only, so of equal
ones it keeps the first. Main statement: the rules read a question about the first of the domains
with the highest score, and read nothing exactly if no score is high enough.
-/
namespace CivicReport

namespace Ranking

variable {q : Question} {r : Registry} {domains : List Domain} {d e : Domain}

/-- No domain has a higher score, and those before it have lower ones. -/
structure IsFirstBest (q : Question) (domains : List Domain) (d : Domain) : Prop where
  highest : ∀ e ∈ domains, score q e ≤ score q d
  first : ∃ before after, domains = before ++ d :: after ∧ ∀ e ∈ before, score q e < score q d

theorem IsFirstBest.mem (h : IsFirstBest q domains d) : d ∈ domains := by
  obtain ⟨before, after, rfl, -⟩ := h.first
  simp

/-- Of two domains that are first, neither stands before the other. -/
theorem IsFirstBest.eq (hd : IsFirstBest q domains d) (he : IsFirstBest q domains e) : d = e := by
  obtain ⟨before, after, hsplit, hbefore⟩ := hd.first
  obtain ⟨before', after', hsplit', hbefore'⟩ := he.first
  have hde : d ∉ before' := fun hmem => Nat.not_le.2 (hbefore' d hmem) (hd.highest e he.mem)
  have hed : e ∉ before := fun hmem => Nat.not_le.2 (hbefore e hmem) (he.highest d hd.mem)
  rw [hsplit] at hsplit'
  rcases List.append_eq_append_iff.1 hsplit' with ⟨t, rfl, ht⟩ | ⟨t, rfl, ht⟩
  · cases t with
    | nil => exact (List.cons.inj ht).1
    | cons x t =>
      obtain ⟨rfl, -⟩ := List.cons.inj ht
      simp at hde
  · cases t with
    | nil => exact (List.cons.inj ht).1.symm
    | cons x t =>
      obtain ⟨rfl, -⟩ := List.cons.inj ht
      simp at hed

theorem isFirstBest_iff (h : IsFirstBest q domains d) : IsFirstBest q domains e ↔ e = d :=
  ⟨fun he => he.eq h, fun heq => heq ▸ h⟩

/-- The loop over the scores ends with the first of the best, and finds one unless there are no
domains. -/
theorem exists_isFirstBest (h : r.domains ≠ []) :
    ∃ d, best? (scores r q) = some (d, score q d) ∧ IsFirstBest q r.domains d := by
  obtain ⟨best, hbest⟩ : ∃ best, best? (scores r q) = some best := by
    obtain ⟨d, rest, hdomains⟩ := List.exists_cons_of_ne_nil h
    rw [scores, hdomains]
    exact ⟨_, rfl⟩
  obtain ⟨before, after, hsplit, hbefore, hafter⟩ := exists_split_of_best? hbest
  obtain ⟨before, rest, hdomains, rfl, hrest⟩ := List.map_eq_append_iff.1 hsplit
  obtain ⟨d, after, rfl, rfl, rfl⟩ := List.map_eq_cons_iff.1 hrest
  rw [List.forall_mem_map] at hbefore hafter
  refine ⟨d, hbest, ?_, before, after, hdomains, hbefore⟩
  rw [hdomains, List.forall_mem_append, List.forall_mem_cons]
  exact ⟨fun e he => Nat.le_of_lt (hbefore e he), Nat.le_refl _, hafter⟩

end Ranking

namespace Interpretation

open Ranking (IsFirstBest exists_isFirstBest least score)

variable {domains : List Domain} {r : Registry} {q : Question} {d : Domain}

theorem byRules?_of_isFirstBest (h : IsFirstBest q r.domains d) : byRules? r q =
    if score q d < least then none else some (intentIn r q d (score q d)) := by
  obtain ⟨e, hbest, he⟩ := exists_isFirstBest (r := r) (q := q) (List.ne_nil_of_mem h.mem)
  obtain rfl := h.eq he
  rw [byRules?, hbest, Option.bind_some]

/-- The rules read nothing exactly if no score is high enough. Otherwise they read the question
about one domain of the registry, the first of those with the highest score and the only one that
is so. -/
theorem byRules?_first_best (hr : Registry.ofDomains domains = .ok r) (q : Question) :
    (byRules? r q = none ↔ ∀ d ∈ r.domains, score q d < least) ∧
      ∀ i, byRules? r q = some i → ∃ d, r.domain? i.domain = some d ∧ least ≤ score q d ∧
        ∀ e, IsFirstBest q r.domains e ↔ e = d := by
  obtain ⟨d, -, hd⟩ := exists_isFirstBest (r := r) (q := q)
    (List.ne_nil_of_mem (Registry.fallback_mem_of_ofDomains hr))
  rw [byRules?_of_isFirstBest hd]
  constructor
  · constructor
    · intro hnone e he
      split at hnone
      · next hlow => exact Nat.lt_of_le_of_lt (hd.highest e he) hlow
      · contradiction
    · intro hlow
      rw [if_pos (hlow d hd.mem)]
  · intro i hi
    split at hi
    · contradiction
    · next hlow =>
      obtain rfl := Option.some.inj hi
      exact ⟨d, Registry.domain?_of_mem hr hd.mem, Nat.le_of_not_lt hlow, fun e =>
        Ranking.isFirstBest_iff hd⟩

/-- A domain without fields that goes by some words. -/
def place (key : String) (words : List String) (isFallback : Bool) : Domain where
  key := key
  label := key
  table := key
  primaryKey := "id"
  fields := []
  defaultFields := []
  primaryWords := words
  isFallback := isFallback

/-- Of two places that go by one word, the one that is declared first is meant. -/
theorem byRules?_first_best_lamps :
    let streets := place "streets" ["lamp"] false
    let parks := place "parks" ["lamp"] true
    let domains := [place "schools" [] false, streets, parks]
    let q := Question.ofText "Lamps"
    Registry.ofDomains domains = .ok ⟨domains, parks⟩ ∧ score q streets = score q parks ∧
      ∃ i, byRules? ⟨domains, parks⟩ q = some i ∧ i.domain = "streets" ∧
        ∀ e, IsFirstBest q domains e ↔ e = streets := by
  intro streets parks domains q
  have hr : Registry.ofDomains domains = .ok ⟨domains, parks⟩ := rfl
  have hfirst : IsFirstBest q domains streets :=
    ⟨by decide, [place "schools" [] false], _, rfl, by decide⟩
  obtain ⟨hnone, hsome⟩ := byRules?_first_best hr q
  obtain ⟨i, hi⟩ : ∃ i, byRules? ⟨domains, parks⟩ q = some i := by
    rw [← Option.ne_none_iff_exists', Ne, hnone]
    intro hlow
    exact absurd (hlow _ hfirst.mem) (by decide)
  obtain ⟨d, hd, -, honly⟩ := hsome i hi
  obtain rfl := (honly _).1 hfirst
  have hkey : streets.key = i.domain := by simpa using List.find?_some hd
  exact ⟨hr, by decide, i, hi, hkey.symm, honly⟩

end Interpretation

end CivicReport
