import CivicReport.Proofs.Question.Folding
import CivicReport.Proofs.Text.Casing
import CivicReport.Proofs.Text.Words

/-!
Folded text as a normal form. It is made of words with single spaces between them and holds nothing
that folding rewrites. Main statements: folding a text again changes nothing, and white space at the
ends of a text makes no difference.
-/
namespace CivicReport

namespace Folding

variable {c x : Char} {s t y before quiet : List Char}

/-- Hebrew letters in the form that ends a word. -/
def finalLetters : List Char := ['ך', 'ם', 'ן', 'ף', 'ץ']

theorem regular_of_not_mem (h : c ∉ finalLetters) : regular c = c := by
  simp only [finalLetters, List.mem_cons, List.not_mem_nil, or_false, not_or] at h
  obtain ⟨hkaf, hmem, hnun, hpe, htsadi⟩ := h
  rw [regular, if_neg hkaf, if_neg hmem, if_neg hnun, if_neg hpe, if_neg htsadi]

/-- The characters that are not left in folded text. -/
def rewritten : List Char := dropped ++ separators ++ finalLetters

theorem not_mem_rewritten_iff :
    c ∉ rewritten ↔ c ∉ dropped ∧ c ∉ separators ∧ c ∉ finalLetters := by
  simp only [rewritten, List.mem_append, not_or, and_assoc]

theorem kept_of_not_mem (h : c ∉ rewritten) :
    dropped.contains c = false ∧ separators.contains c = false ∧ regular c = c := by
  obtain ⟨hdropped, hseparator, hfinal⟩ := not_mem_rewritten_iff.1 h
  exact ⟨by simpa using hdropped, by simpa using hseparator, regular_of_not_mem hfinal⟩

theorem not_mem_rewritten_of_mem_plain (h : x ∈ plain s) : x ∉ rewritten := by
  obtain ⟨c, hc, rfl⟩ := List.mem_map.1 h
  split
  · decide
  · next hseparator =>
    by_cases hfinal : c ∈ finalLetters
    · have hall : ∀ c ∈ finalLetters, regular c ∉ rewritten := by decide
      exact hall c hfinal
    · rw [regular_of_not_mem hfinal, not_mem_rewritten_iff]
      exact ⟨by simpa using (List.mem_filter.1 hc).2, by simpa using hseparator, hfinal⟩

theorem unreached_rewritten :
    (rewritten.all fun c => Text.unreached (c.toNat, c.toNat)) = true := by decide +kernel

theorem not_mem_rewritten_of_mem_lowercase (h : ∀ c ∈ s, c ∉ rewritten)
    (hx : x ∈ Text.lowercase s) : x ∉ rewritten := by
  intro hrewritten
  have hunreached := List.all_eq_true.1 unreached_rewritten x hrewritten
  exact h x (Text.mem_of_mem_lowercase hunreached hx ⟨Nat.le_refl _, Nat.le_refl _⟩) hrewritten

/-- Folded text is a blank here and there, and characters of the lower-cased plain text. -/
theorem mem_fold (h : x ∈ fold s) : x = ' ' ∨ x ∈ Text.lowercase (plain s) := by
  rcases Text.mem_joined h with rfl | ⟨w, hw, hx⟩
  · exact .inl rfl
  · exact .inr (Text.mem_of_mem_words hw hx)

theorem not_mem_rewritten_of_mem_fold (h : x ∈ fold s) : x ∉ rewritten := by
  rcases mem_fold h with rfl | hx
  · decide
  · exact not_mem_rewritten_of_mem_lowercase (fun _ => not_mem_rewritten_of_mem_plain) hx

theorem isLower_of_mem_fold (h : x ∈ fold s) : Text.IsLower x := by
  rcases mem_fold h with rfl | hx
  · decide
  · exact Text.isLower_of_mem_lowercase hx

theorem exists_words_fold (s : List Char) :
    ∃ ws, fold s = Text.joined [' '] ws ∧ ∀ w ∈ ws, Text.IsWord w :=
  ⟨_, rfl, fun _ => Text.isWord_of_mem_words⟩

theorem fold_fold (s : List Char) : fold (fold s) = fold s := by
  have hplain : plain (fold s) = fold s :=
    plain_eq_self fun _ hc => kept_of_not_mem (not_mem_rewritten_of_mem_fold hc)
  have hlower : Text.lowercase (fold s) = fold s := lowerFrom_eq_self fun _ => isLower_of_mem_fold
  obtain ⟨ws, hjoined, hws⟩ := exists_words_fold s
  rw [fold, hplain, hlower, hjoined, Text.words_joined hws]

/-- What stands before a text without ending a word in letters does not change its letters. -/
theorem lowerFrom_before (hquiet : ∀ c ∈ quiet, IsQuiet c) :
    Text.lowerFrom (before ++ quiet) s = Text.lowerFrom before s := by
  induction s generalizing before with
  | nil => rfl
  | cons c s ih =>
    rw [Text.lowerFrom, Text.lowerFrom, casedFollows_append hquiet, ← List.cons_append, ih]

theorem lowerFrom_append_left (hquiet : ∀ c ∈ quiet, IsQuiet c) :
    Text.lowerFrom before (quiet ++ s) = quiet ++ Text.lowerFrom (quiet.reverse ++ before) s := by
  induction quiet generalizing before with
  | nil => rfl
  | cons c quiet ih =>
    obtain ⟨⟨-, ⟨hsigma, hdotted, hlower⟩, -⟩, hquiet⟩ := List.forall_mem_cons.1 hquiet
    rw [List.cons_append, Text.lowerFrom, if_neg hsigma, if_neg hdotted, hlower, ih hquiet,
      List.reverse_cons, List.append_assoc]
    rfl

theorem lowercase_append_left (hquiet : ∀ c ∈ quiet, IsQuiet c) :
    Text.lowercase (quiet ++ s) = quiet ++ Text.lowercase s := by
  have hreverse : ∀ c ∈ quiet.reverse, IsQuiet c := fun c hc => hquiet c (List.mem_reverse.1 hc)
  have hbefore : Text.lowerFrom ([] ++ quiet.reverse) s = Text.lowerFrom [] s :=
    lowerFrom_before hreverse
  rw [Text.lowercase, lowerFrom_append_left hquiet, List.append_nil]
  exact congrArg _ hbefore

theorem fold_append_left (hblank : ∀ c ∈ t, Text.isBlank c = true) : fold (t ++ s) = fold s := by
  have hquiet : ∀ c ∈ t, IsQuiet c := fun c hc => isQuiet_of_isBlank (hblank c hc)
  have hplain : plain t = t := plain_eq_self fun c hc => (hquiet c hc).1
  rw [fold, plain_append, hplain, lowercase_append_left hquiet, Text.words_append_left hblank, fold]

theorem fold_append_right (hblank : ∀ c ∈ t, Text.isBlank c = true) : fold (s ++ t) = fold s := by
  have hquiet : ∀ c ∈ t, IsQuiet c := fun c hc => isQuiet_of_isBlank (hblank c hc)
  rw [fold, plain_append_of_isQuiet hquiet, Text.lowercase, lowerFrom_append_of_isQuiet hquiet,
    Text.words, Text.wordsFrom_append_blanks hblank]
  rfl

theorem fold_trim (s : List Char) : fold (Text.trim s) = fold s := by
  obtain ⟨front, back, heq, hfront, hback⟩ := Text.exists_append_trim s
  calc fold (Text.trim s) = fold (Text.trim s ++ back) := (fold_append_right hback).symm
    _ = fold (front ++ (Text.trim s ++ back)) := (fold_append_left hfront).symm
    _ = fold s := by rw [← heq]

end Folding

theorem Question.folded_ofText (s : String) : (ofText s).folded = Folding.foldText s :=
  Folding.fold_trim s.toList

end CivicReport
