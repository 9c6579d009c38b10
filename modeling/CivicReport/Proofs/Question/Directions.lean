import CivicReport.Proofs.Question.Forms
import CivicReport.Query.Plan

/-!
The direction of a comparison in a question. A comparison begins with the words for its direction,
and no words for one direction begin with words for the other. Main statement: the key of the
amount that is found has the suffix for the direction that the first comparison has in words.
-/
namespace CivicReport.Extraction

open Pattern

variable {q : Question} {d : Domain} {key : String} {v : Scalar} {s : List Char}
  {m : PatternMatch Part} {op : Comparison}

/-- The words for a direction, without the blanks in them. No words ask for equality. -/
def spellings : Comparison → List String
  | .equal => []
  | .greater => aboveSpellings
  | .less => belowSpellings

/-- From where the first comparison in a text begins, the text begins with words for a direction,
apart from blanks. -/
def ComparesFirst (s : List Char) (op : Comparison) : Prop :=
  ∃ m, amountBound.find? s = some m ∧
    ∃ t ∈ spellings op, t.toList <+: (s.drop m.start).filter (!Text.isBlank ·)

theorem spellings_apart : ∀ t ∈ aboveSpellings, ∀ u ∈ belowSpellings,
    ¬ (t.toList <+: u.toList ∨ u.toList <+: t.toList) := by
  decide

/-- A text compares in one direction first. -/
theorem ComparesFirst.eq {other : Comparison} (h : ComparesFirst s op)
    (hother : ComparesFirst s other) : op = other := by
  obtain ⟨m, hm, t, ht, hbegins⟩ := h
  obtain ⟨m', hm', u, hu, hbegins'⟩ := hother
  obtain rfl : m = m' := Option.some.inj (hm.symm.trans hm')
  have hcomparable := List.prefix_or_prefix_of_prefix hbegins hbegins'
  cases op with
  | equal => exact absurd ht List.not_mem_nil
  | greater =>
    cases other with
    | equal => exact absurd hu List.not_mem_nil
    | greater => rfl
    | less => exact absurd hcomparable (spellings_apart t ht u hu)
  | less =>
    cases other with
    | equal => exact absurd hu List.not_mem_nil
    | greater => exact absurd hcomparable.symm (spellings_apart u hu t ht)
    | less => rfl

/-- What stands after the words of a comparison. -/
def amountTail : Pattern Part :=
  chain [blanks, maybe (anyText amountLetters), blanks,
    group .number (chain [digits 1 (some 1), run isDigitOrComma 0 none,
      maybe (seq (text ".") (digits 1 none))]),
    maybe (seq blanks (group .unit unitWords))]

theorem amountBound_eq_seq : amountBound =
    seq afterBlank (seq (either (group .above aboveWords) (group .below belowWords)) amountTail) :=
  rfl

theorem Opens.filter_eq_nil {a sep : List Char} (h : Opens a sep) :
    sep.filter (!Text.isBlank ·) = [] := by
  rcases h with ⟨-, rfl⟩ | ⟨x, hx, rfl⟩
  · rfl
  · exact filter_eq_nil_of_blank (List.forall_mem_singleton.2 hx)

/-- The suffix of a match is that of the direction which its words have. -/
theorem comparesFirst_of_find? (h : amountBound.find? s = some m) :
    ComparesFirst s .greater ∧ directionSuffix m = FilterKey.aboveSuffix ∨
      ComparesFirst s .less ∧ directionSuffix m = FilterKey.belowSuffix := by
  obtain ⟨a, _, b, hs, htakes, hstart, -⟩ := isMatch_of_find? h
  rw [amountBound_eq_seq] at htakes
  obtain ⟨sep, _, _, _, rfl, hcaptures, hsep, hrest⟩ := htakes
  obtain ⟨hopens, rfl⟩ := takes_afterBlank_iff.1 hsep
  obtain ⟨words, tail, direction, caps, rfl, rfl, hwords, htail⟩ := hrest
  have hplace {t : String} (ht : words.filter (!Text.isBlank ·) = t.toList) :
      t.toList <+: (s.drop m.start).filter (!Text.isBlank ·) := by
    rw [hs, hstart, List.drop_left, ← ht]
    simp only [List.filter_append, hopens.filter_eq_nil, List.nil_append, List.append_assoc]
    exact List.prefix_append _ _
  rcases hwords with ⟨inner, rfl, hwords⟩ | ⟨inner, rfl, hwords⟩
  · left
    obtain ⟨⟨t, ht, hspelled⟩, rfl⟩ := takes_aboveWords hwords
    refine ⟨⟨m, h, t, ht, hplace hspelled⟩, if_pos ?_⟩
    simp [PatternMatch.capture?, hcaptures]
  · right
    obtain ⟨⟨t, ht, hspelled⟩, rfl⟩ := takes_belowWords hwords
    refine ⟨⟨m, h, t, ht, hplace hspelled⟩, if_neg ?_⟩
    -- The suffix depends on the other label alone, so none of the later captures may have it.
    have hlabels : ∀ label ∈ amountTail.labels, label ≠ Part.above := by decide
    have hnone : ∀ c ∈ caps, ¬ c.label = .above := fun c hc => hlabels _ (htail.label_mem c hc)
    simpa [PatternMatch.capture?, hcaptures] using hnone

/-- The key of an amount, with the direction of the first comparison that is no date. -/
theorem key_of_amount? (h : amount? q d = some (key, v)) : ∃ field, d.amountField? = some field ∧
    (ComparesFirst (without Vocabulary.dateBounds q.folded) .greater ∧
        key = field.key ++ FilterKey.aboveSuffix ∨
      ComparesFirst (without Vocabulary.dateBounds q.folded) .less ∧
        key = field.key ++ FilterKey.belowSuffix) := by
  obtain ⟨field, hfield, h⟩ := Option.bind_eq_some_iff.1 h
  obtain ⟨m, hm, h⟩ := Option.bind_eq_some_iff.1 h
  obtain ⟨number, -, h⟩ := Option.bind_eq_some_iff.1 h
  obtain ⟨x, -, hx⟩ := Option.map_eq_some_iff.1 h
  have hkey : field.key ++ directionSuffix m = key := congrArg Prod.fst hx
  refine ⟨field, hfield, ?_⟩
  rcases comparesFirst_of_find? hm with ⟨hcompares, hsuffix⟩ | ⟨hcompares, hsuffix⟩
  · exact .inl ⟨hcompares, hsuffix ▸ hkey.symm⟩
  · exact .inr ⟨hcompares, hsuffix ▸ hkey.symm⟩

end CivicReport.Extraction
