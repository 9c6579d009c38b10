import CivicReport.Proofs.Question.Findings
import CivicReport.Proofs.Question.NormalForm
import CivicReport.Proofs.Question.Ranking

/-!
What the reading of a question depends on. Scores, rules for filters, rules for the report and known
words are all looked up in the folded text, and only a search is for the text as it was asked. Main
statement: folded text is a normal form, and questions with the same folded text are read alike.
-/
namespace CivicReport

variable {q p : Question}

theorem Question.contains_congr (h : q.folded = p.folded) : q.contains = p.contains := by
  unfold contains
  rw [h]

theorem Question.tokens_congr (h : q.folded = p.folded) : q.tokens = p.tokens := by
  unfold tokens
  rw [h]

theorem Ranking.score_congr (h : q.folded = p.folded) (d : Domain) : score q d = score p d := by
  unfold score present
  rw [Question.contains_congr h]

theorem Shape.action_congr (h : q.folded = p.folded) : action q = action p := by
  unfold action
  rw [h]

namespace Extraction

theorem find_congr {rule : Rule} (hrule : rule ∈ rules) (h : q.folded = p.folded) (d : Domain) :
    rule.find q d = rule.find p d := by
  simp only [rules, List.mem_cons, List.not_mem_nil, or_false] at hrule
  rcases hrule with rfl | rfl | rfl | rfl | rfl | rfl | rfl
  · simp only [project?, h]
  · simp only [year?, h]
  · simp only [department?, h]
  · simp only [amount?, h]
  · simp only [status?, h]
  · simp only [transactionType?, Question.contains_congr h]
  · simp only [order?, h]

theorem filters_congr (h : q.folded = p.folded) (d : Domain) : filters q d = filters p d := by
  unfold filters filtersBy
  refine List.foldl_ext _ _ _ fun found rule hrule => ?_
  unfold apply
  rw [find_congr hrule h]

end Extraction

namespace Interpretation

variable {r : Registry}

theorem isReportPhrase_congr (h : q.folded = p.folded) :
    isReportPhrase r q = isReportPhrase r p := by
  unfold isReportPhrase
  rw [Question.tokens_congr h]

theorem isStatusPhrase_congr (h : q.folded = p.folded) :
    isStatusPhrase r q = isStatusPhrase r p := by
  unfold isStatusPhrase
  rw [Question.tokens_congr h, Question.contains_congr h]

/-- Readings of two texts that are the same, but that each of them may be searched for its own
text. -/
structure SameReading (s t : String) (i j : Intent) : Prop where
  domain : i.domain = j.domain
  action : i.action = j.action
  confidence : i.confidence = j.confidence
  filters : ∀ key ≠ FilterKey.searchKey, i.filters.get? key = j.filters.get? key
  search : i.filters.get? FilterKey.searchKey = none ∧ j.filters.get? FilterKey.searchKey = none ∨
    i.filters.get? FilterKey.searchKey = some (.text (Text.trimmed s)) ∧
      j.filters.get? FilterKey.searchKey = some (.text (Text.trimmed t))

section

variable {s t : String}

theorem sameReading_intentIn (h : (Question.ofText s).folded = (Question.ofText t).folded)
    (d : Domain) (score : Nat) : SameReading s t (intentIn r (Question.ofText s) d score)
      (intentIn r (Question.ofText t) d score) := by
  have hfound := Extraction.filters_congr h d
  constructor
  case domain => simp only [intentIn]
  case action => simp only [intentIn, Shape.action_congr h]
  case confidence => simp only [intentIn, hfound]
  all_goals
    simp only [intentIn, filtersOrSearch, hfound, isReportPhrase_congr h, isStatusPhrase_congr h]
    split
  · intro key hkey
    simp [Ne.symm hkey]
  · exact fun _ _ => rfl
  · exact .inr ⟨by rw [Filters.get?_insert, if_pos rfl]; rfl,
      by rw [Filters.get?_insert, if_pos rfl]; rfl⟩
  · exact .inl ⟨Extraction.get?_searchKey_filters _ d, Extraction.get?_searchKey_filters _ d⟩

theorem scores_congr (h : q.folded = p.folded) : Ranking.scores r q = Ranking.scores r p := by
  refine List.map_congr_left fun d _ => ?_
  rw [Ranking.score_congr h]

theorem sameReading_byRules? (r : Registry)
    (h : (Question.ofText s).folded = (Question.ofText t).folded) :
    Option.Rel (SameReading s t) (byRules? r (Question.ofText s))
      (byRules? r (Question.ofText t)) := by
  rw [byRules?, byRules?, scores_congr h]
  cases Ranking.best? (Ranking.scores r (Question.ofText t)) with
  | none => exact .none
  | some best =>
    simp only [Option.bind_some]
    split
    · exact .none
    · exact .some (sameReading_intentIn h best.1 best.2)

/-- Folded text is a normal form: it holds nothing that is dropped, separates words or ends them in
Hebrew, and folding it again changes nothing. The reading of a question depends on it alone, and a
search is for the question as it was asked. -/
theorem byRules?_normal_form :
    (∀ s : String, (∀ c ∈ Folding.foldText s, c ∉ Folding.dropped ∧ c ∉ Folding.separators ∧
        c ∉ Folding.finalLetters) ∧
      (∃ ws, Folding.foldText s = Text.joined [' '] ws ∧ ∀ w ∈ ws, Text.IsWord w) ∧
      Folding.fold (Folding.foldText s) = Folding.foldText s) ∧
    ∀ (r : Registry) (s t : String), Folding.foldText s = Folding.foldText t →
      Option.Rel (SameReading s t) (byRules? r (Question.ofText s))
        (byRules? r (Question.ofText t)) := by
  refine ⟨fun s => ⟨fun c hc => ?_, Folding.exists_words_fold _, Folding.fold_fold _⟩,
    fun r s t h => sameReading_byRules? r ?_⟩
  · exact Folding.not_mem_rewritten_iff.1 (Folding.not_mem_rewritten_of_mem_fold hc)
  · rw [Question.folded_ofText, Question.folded_ofText, h]

end

/-- Two spellings of one question, with and without capitals, marks and final letters. -/
theorem byRules?_normal_form_lamps :
    let parks := place "parks" ["lamp"] true
    let s := "תשלומי\"ם LAMP-posts!"
    let t := " תשלומימ  lamp posts"
    Folding.foldText s = Folding.foldText t ∧ s ≠ t ∧
      ∃ i j, byRules? ⟨[parks], parks⟩ (Question.ofText s) = some i ∧ i.domain = "parks" ∧
        byRules? ⟨[parks], parks⟩ (Question.ofText t) = some j ∧ SameReading s t i j := by
  intro parks s t
  have hfold : Folding.foldText s = Folding.foldText t := by decide +kernel
  have hfirst : Ranking.IsFirstBest (Question.ofText s) [parks] parks :=
    ⟨by simp, [], [], rfl, List.forall_mem_nil _⟩
  have hscore : ¬ Ranking.score (Question.ofText s) parks < Ranking.least := by decide +kernel
  have hread := byRules?_of_isFirstBest (r := ⟨[parks], parks⟩) hfirst
  rw [if_neg hscore] at hread
  have hsame := byRules?_normal_form.2 ⟨[parks], parks⟩ s t hfold
  rw [hread] at hsame
  cases hother : byRules? ⟨[parks], parks⟩ (Question.ofText t) with
  | none =>
    rw [hother] at hsame
    exact absurd hsame Option.not_rel_some_none
  | some j =>
    rw [hother, Option.rel_some_some] at hsame
    exact ⟨hfold, by decide, _, j, hread, rfl, rfl, hsame⟩

end Interpretation

end CivicReport
