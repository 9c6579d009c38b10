import CivicReport.Question.Vocabulary
import CivicReport.Proofs.Text.Classes
import CivicReport.Proofs.Text.Trimming
import CivicReport.Proofs.Text.Words

/-!
What folding makes of a text. Main statements: a text in plain letters with single blanks only has
its final letters changed, and a comma or full stop behind a question stays at the end of its
folded text, with a blank before it or without.
-/
namespace CivicReport

namespace Folding

variable {s t before : List Char}

theorem lowerFrom_eq_self (h : ∀ c ∈ s, c ≠ 'Σ' ∧ c ≠ 'İ' ∧ Text.lowerChar c = c) :
    Text.lowerFrom before s = s := by
  induction s generalizing before with
  | nil => rfl
  | cons c s ih =>
    obtain ⟨hsigma, hdotted, hlower⟩ := h c List.mem_cons_self
    rw [Text.lowerFrom, if_neg hsigma, if_neg hdotted, hlower,
      ih fun c hc => h c (List.mem_cons_of_mem _ hc)]
    rfl

theorem plain_append : plain (s ++ t) = plain s ++ plain t := by
  simp only [plain, List.filter_append, List.map_append]

theorem plain_eq_map_regular
    (h : ∀ c ∈ s, dropped.contains c = false ∧ separators.contains c = false) :
    plain s = s.map regular := by
  have hkept : s.filter (!dropped.contains ·) = s := by
    rw [List.filter_eq_self]
    intro c hc
    rw [(h c hc).1]
    rfl
  rw [plain, hkept]
  refine List.map_congr_left fun c hc => ?_
  rw [(h c hc).2, if_neg Bool.false_ne_true]

theorem plain_eq_self (h : ∀ c ∈ s, dropped.contains c = false ∧ separators.contains c = false ∧
    regular c = c) : plain s = s := by
  have hregular : s.map regular = s.map id := List.map_congr_left fun c hc => (h c hc).2.2
  rw [plain_eq_map_regular fun c hc => ⟨(h c hc).1, (h c hc).2.1⟩, hregular, List.map_id]

section Plain

/-- The blank, and letters of which folding changes no more than the final form. -/
def plainRanges : List (Nat × Nat) := [(0x20, 0x20), (0x61, 0x7A), (0x5D0, 0x5EA)]

/-- A text of such letters, with single blanks between its words. -/
def IsPlain (s : List Char) : Prop :=
  (∀ c ∈ s, Text.inRanges plainRanges c.toNat = true) ∧
    Text.joined [' '] (Text.words (s.map regular)) = s.map regular

instance : Decidable (IsPlain s) :=
  inferInstanceAs (Decidable ((∀ c ∈ s, Text.inRanges plainRanges c.toNat = true) ∧
    _ = s.map regular))

theorem plainRanges_kept {c : Char} (h : Text.inRanges plainRanges c.toNat = true) :
    dropped.contains c = false ∧ separators.contains c = false ∧ regular c ≠ 'Σ' ∧
      regular c ≠ 'İ' ∧ Text.lowerChar (regular c) = regular c := by
  have hall : ∀ n ∈ Text.codes plainRanges, dropped.contains (Char.ofNat n) = false ∧
      separators.contains (Char.ofNat n) = false ∧ regular (Char.ofNat n) ≠ 'Σ' ∧
        regular (Char.ofNat n) ≠ 'İ' ∧
          Text.lowerChar (regular (Char.ofNat n)) = regular (Char.ofNat n) := by
    decide +kernel
  have hc := hall _ (Text.mem_codes_of_inRanges h)
  rwa [Char.ofNat_toNat] at hc

theorem plain_of_isPlain (h : IsPlain s) : plain s = s.map regular :=
  plain_eq_map_regular fun c hc =>
    ⟨(plainRanges_kept (h.1 c hc)).1, (plainRanges_kept (h.1 c hc)).2.1⟩

/-- Of a plain text, folding changes the final letters only. -/
theorem fold_of_isPlain (h : IsPlain s) : fold s = s.map regular := by
  have hlower : Text.lowercase (s.map regular) = s.map regular := by
    refine lowerFrom_eq_self fun c hc => ?_
    obtain ⟨c, hmem, rfl⟩ := List.mem_map.1 hc
    exact (plainRanges_kept (h.1 c hmem)).2.2
  rw [fold, plain_of_isPlain h, hlower, h.2]

/-- A text with regular letters in place of the final ones. -/
def letters (s : String) : List Char := s.toList.map regular

theorem foldText_of_isPlain {s : String} (h : IsPlain s.toList) : foldText s = letters s :=
  fold_of_isPlain h

end Plain

section Vocabulary

open Vocabulary

/-- Everything that is looked for in folded text. -/
def terms : List String :=
  (departments ++ ministries).flatMap (·.variants) ++ statusExclusions ++ dateBounds ++
    (statusPhrases ++ transactionTypes).map (·.text)

theorem isPlain_terms : ∀ term ∈ terms, IsPlain term.toList := by
  decide +kernel

theorem foldText_of_mem_terms {term : String} (h : term ∈ terms) : foldText term = letters term :=
  foldText_of_isPlain (isPlain_terms term h)

theorem foldText_statusPhrases {phrase : Phrase} (h : phrase ∈ statusPhrases) :
    foldText phrase.text = letters phrase.text :=
  foldText_of_mem_terms (by simp [terms, List.mem_map_of_mem, h])

theorem foldText_statusValue {phrase : Phrase} (h : phrase ∈ statusPhrases) :
    foldText phrase.value = letters phrase.value :=
  foldText_of_isPlain (by revert phrase; decide +kernel)

theorem foldText_statusExclusions {excluded : String} (h : excluded ∈ statusExclusions) :
    foldText excluded = letters excluded :=
  foldText_of_mem_terms (by simp [terms, h])

theorem foldText_dateBounds {phrase : String} (h : phrase ∈ dateBounds) :
    foldText phrase = letters phrase :=
  foldText_of_mem_terms (by simp [terms, h])

end Vocabulary

section Marks

variable {x y : List Char} {mark : Char}

/-- A character that folding leaves as it is, and that does not end a word in letters. -/
def IsQuiet (c : Char) : Prop :=
  (dropped.contains c = false ∧ separators.contains c = false ∧ regular c = c) ∧
    (c ≠ 'Σ' ∧ c ≠ 'İ' ∧ Text.lowerChar c = c) ∧ Text.inRanges Text.casedRanges c.toNat = false

instance {c : Char} : Decidable (IsQuiet c) :=
  inferInstanceAs (Decidable ((_ = false ∧ _ = false ∧ regular c = c) ∧
    (c ≠ 'Σ' ∧ c ≠ 'İ' ∧ Text.lowerChar c = c) ∧ _ = false))

theorem isQuiet_of_isBlank {c : Char} (h : Text.isBlank c = true) : IsQuiet c := by
  have hc := Text.of_isBlank (P := fun n => IsQuiet (Char.ofNat n)) (by decide +kernel) h
  rwa [Char.ofNat_toNat] at hc

theorem isQuiet_mark (hmark : mark = ',' ∨ mark = '.') : IsQuiet mark := by
  rcases hmark with rfl | rfl <;> decide

theorem plain_append_of_isQuiet (hy : ∀ c ∈ y, IsQuiet c) : plain (x ++ y) = plain x ++ y := by
  rw [plain_append, plain_eq_self fun c hc => (hy c hc).1]

theorem casedFollows_eq : Text.casedFollows x =
    (x.dropWhile (Text.inRanges Text.caseIgnorableRanges ·.toNat)).head?.any
      (Text.inRanges Text.casedRanges ·.toNat) := by
  rw [Text.casedFollows]
  split <;> simp [*]

theorem casedFollows_append (hy : ∀ c ∈ y, IsQuiet c) :
    Text.casedFollows (x ++ y) = Text.casedFollows x := by
  rw [casedFollows_eq, casedFollows_eq, List.dropWhile_append]
  split
  · next hempty =>
    rw [List.isEmpty_iff.1 hempty, List.head?_nil, Option.any_none]
    cases hhead : (y.dropWhile (Text.inRanges Text.caseIgnorableRanges ·.toNat)).head? with
    | none => rfl
    | some c =>
      exact (hy c ((List.dropWhile_suffix _).mem (List.mem_of_head? hhead))).2.2
  · next hne =>
    obtain ⟨c, rest, heq⟩ := List.exists_cons_of_ne_nil (mt List.isEmpty_iff.2 hne)
    rw [heq]
    rfl

theorem lowerFrom_append_of_isQuiet (hy : ∀ c ∈ y, IsQuiet c) :
    Text.lowerFrom before (x ++ y) = Text.lowerFrom before x ++ y := by
  induction x generalizing before with
  | nil => exact lowerFrom_eq_self fun c hc => (hy c hc).2.1
  | cons c x ih =>
    rw [List.cons_append, Text.lowerFrom, Text.lowerFrom, casedFollows_append hy, ih,
      List.append_assoc]

/-- A mark behind a text ends the last word, or is a word of its own. -/
theorem exists_joined_wordsFrom (hmark : Text.isBlank mark = false) (word : List Char) :
    Text.wordsFrom word (x ++ [mark]) ≠ [] ∧
      ∃ gap, (gap = [] ∨ gap = [' '] ∧ Text.wordsFrom word x ≠ []) ∧
        Text.joined [' '] (Text.wordsFrom word (x ++ [mark])) =
          Text.joined [' '] (Text.wordsFrom word x) ++ (gap ++ [mark]) := by
  induction x generalizing word with
  | nil =>
    have hlast : Text.wordsFrom word [mark] = [word.reverse ++ [mark]] := by
      simp [Text.wordsFrom, hmark]
    rw [List.nil_append, hlast]
    refine ⟨by simp, [], .inl rfl, ?_⟩
    cases word <;> simp [Text.wordsFrom, Text.joined]
  | cons c x ih =>
    obtain ⟨hne, gap, hgap, hjoined⟩ := ih []
    rw [List.cons_append, Text.wordsFrom, Text.wordsFrom]
    split
    · split
      · exact ⟨hne, gap, hgap, hjoined⟩
      · refine ⟨by simp, ?_⟩
        rw [Text.joined_cons hne, hjoined]
        by_cases hnil : Text.wordsFrom [] x = []
        · obtain rfl : gap = [] := hgap.resolve_right fun h => h.2 hnil
          exact ⟨[' '], .inr ⟨rfl, by simp⟩, by rw [hnil]; rfl⟩
        · refine ⟨gap, hgap.imp_right fun h => ⟨h.1, by simp⟩, ?_⟩
          rw [Text.joined_cons hnil]
          simp only [List.append_assoc]
    · exact ih (c :: word)

/-- Blanks and a mark behind a text leave the mark behind the folded text. -/
theorem exists_fold_append {bl : List Char} (hbl : ∀ c ∈ bl, Text.isBlank c = true)
    (hmark : mark = ',' ∨ mark = '.') : ∃ gap, (gap = [] ∨ gap = [' ']) ∧
      fold (x ++ (bl ++ [mark])) = fold x ++ (gap ++ [mark]) := by
  have hquiet : ∀ c ∈ bl ++ [mark], IsQuiet c := by
    refine List.forall_mem_append.2 ⟨fun c hc => isQuiet_of_isBlank (hbl c hc), ?_⟩
    exact List.forall_mem_singleton.2 (isQuiet_mark hmark)
  have hblank : Text.isBlank mark = false := by
    rcases hmark with rfl | rfl <;> decide
  obtain ⟨-, gap, hgap, hjoined⟩ :=
    exists_joined_wordsFrom (x := Text.lowercase (plain x) ++ bl) hblank []
  refine ⟨gap, hgap.imp_right And.left, ?_⟩
  rw [Text.wordsFrom_append_blanks hbl, List.append_assoc] at hjoined
  rw [fold, plain_append_of_isQuiet hquiet, Text.lowercase, lowerFrom_append_of_isQuiet hquiet]
  exact hjoined

end Marks

end Folding

/-- A comma or a full stop behind a question stands behind its folded text, after a blank or not. -/
theorem Question.exists_folded_append {mark : Char} (hmark : mark = ',' ∨ mark = '.') (s : String) :
    ∃ gap, (gap = [] ∨ gap = [' ']) ∧
      (ofText (s ++ String.singleton mark)).folded = (ofText s).folded ++ (gap ++ [mark]) := by
  have hblank : Text.isBlank mark = false := by
    rcases hmark with rfl | rfl <;> decide
  obtain ⟨bl, hbl, htrim⟩ := Text.exists_trim_append (x := s.toList) hblank
  obtain ⟨gap, hgap, hfold⟩ := Folding.exists_fold_append (x := Text.trim s.toList) hbl hmark
  refine ⟨gap, hgap, ?_⟩
  rw [ofText, String.toList_append, String.toList_singleton, htrim]
  exact hfold

end CivicReport
