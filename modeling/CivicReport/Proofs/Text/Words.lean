import CivicReport.Text.Blank
import CivicReport.Text.Search

/-!
The words of a text. Main statement: words that are joined by single spaces are the words of what
comes out.
-/
namespace CivicReport.Text

variable {c : Char} {s w word bl : List Char} {ws : List (List Char)}

/-- A run of characters that are not white space. -/
def IsWord (w : List Char) : Prop := w ≠ [] ∧ ∀ c ∈ w, isBlank c = false

theorem isWord_reverse_iff : IsWord w.reverse ↔ IsWord w := by
  simp [IsWord]

theorem isWord_of_mem_wordsFrom (hword : ∀ c ∈ word, isBlank c = false)
    (h : w ∈ wordsFrom word s) : IsWord w := by
  induction s generalizing word with
  | nil =>
    rw [wordsFrom] at h
    split at h
    · contradiction
    · next hne =>
      obtain rfl := List.mem_singleton.1 h
      exact isWord_reverse_iff.2 ⟨by simpa using hne, hword⟩
  | cons c s ih =>
    have hnone : ∀ d ∈ ([] : List Char), isBlank d = false := List.forall_mem_nil _
    rw [wordsFrom] at h
    split at h
    · split at h
      · exact ih hnone h
      · next hne =>
        rcases List.mem_cons.1 h with rfl | h
        · exact isWord_reverse_iff.2 ⟨by simpa using hne, hword⟩
        · exact ih hnone h
    · next hc => exact ih (List.forall_mem_cons.2 ⟨by simpa using hc, hword⟩) h

theorem isWord_of_mem_words (h : w ∈ words s) : IsWord w :=
  isWord_of_mem_wordsFrom (List.forall_mem_nil _) h

theorem mem_of_mem_wordsFrom (h : w ∈ wordsFrom word s) (hc : c ∈ w) : c ∈ word ∨ c ∈ s := by
  induction s generalizing word with
  | nil =>
    rw [wordsFrom] at h
    split at h
    · contradiction
    · obtain rfl := List.mem_singleton.1 h
      exact .inl (List.mem_reverse.1 hc)
  | cons d s ih =>
    rw [wordsFrom] at h
    split at h
    · split at h
      · exact (ih h).elim nofun fun hs => .inr (List.mem_cons_of_mem d hs)
      · rcases List.mem_cons.1 h with rfl | h
        · exact .inl (List.mem_reverse.1 hc)
        · exact (ih h).elim nofun fun hs => .inr (List.mem_cons_of_mem d hs)
    · rcases ih h with hword | hs
      · exact (List.mem_cons.1 hword).elim (fun hd => .inr (hd ▸ List.mem_cons_self)) .inl
      · exact .inr (List.mem_cons_of_mem d hs)

theorem mem_of_mem_words (h : w ∈ words s) (hc : c ∈ w) : c ∈ s :=
  (mem_of_mem_wordsFrom h hc).resolve_left List.not_mem_nil

theorem joined_cons (h : ws ≠ []) :
    joined [' '] (w :: ws) = w ++ ([' '] ++ joined [' '] ws) := by
  cases ws with
  | nil => exact absurd rfl h
  | cons next ws => rw [joined, List.append_assoc]; exact nofun

theorem mem_joined (h : c ∈ joined [' '] ws) : c = ' ' ∨ ∃ w ∈ ws, c ∈ w := by
  induction ws with
  | nil => contradiction
  | cons w ws ih =>
    cases ws with
    | nil => exact .inr ⟨w, List.mem_cons_self, h⟩
    | cons next ws =>
      rw [joined_cons (List.cons_ne_nil next ws), List.mem_append, List.mem_append,
        List.mem_singleton] at h
      rcases h with h | h | h
      · exact .inr ⟨w, List.mem_cons_self, h⟩
      · exact .inl h
      · exact (ih h).imp_right fun ⟨w', hw', hc⟩ => ⟨w', List.mem_cons_of_mem w hw', hc⟩

theorem wordsFrom_append (hw : ∀ c ∈ w, isBlank c = false) :
    wordsFrom word (w ++ s) = wordsFrom (w.reverse ++ word) s := by
  induction w generalizing word with
  | nil => rfl
  | cons c w ih =>
    obtain ⟨hc, hw⟩ := List.forall_mem_cons.1 hw
    rw [List.cons_append, wordsFrom, hc, if_neg Bool.false_ne_true, ih hw, List.reverse_cons,
      List.append_assoc]
    rfl

theorem words_joined (h : ∀ w ∈ ws, IsWord w) : words (joined [' '] ws) = ws := by
  induction ws with
  | nil => rfl
  | cons w ws ih =>
    obtain ⟨⟨hne, hw⟩, hws⟩ := List.forall_mem_cons.1 h
    have hword : (w.reverse ++ []).isEmpty = false := by
      simpa using hne
    cases ws with
    | nil =>
      have hlast : words (w ++ []) = [w] := by
        rw [words, wordsFrom_append hw, wordsFrom, hword]
        simp
      rwa [List.append_nil] at hlast
    | cons next ws =>
      have hblank : isBlank ' ' = true := by decide
      have hrest : wordsFrom [] (joined [' '] (next :: ws)) = next :: ws := ih hws
      rw [joined_cons (List.cons_ne_nil next ws), words, wordsFrom_append hw,
        List.singleton_append, wordsFrom, if_pos hblank, hword, if_neg Bool.false_ne_true, hrest,
        List.append_nil, List.reverse_reverse]

theorem words_append_left (hbl : ∀ c ∈ bl, isBlank c = true) : words (bl ++ s) = words s := by
  induction bl with
  | nil => rfl
  | cons c bl ih =>
    obtain ⟨hc, hbl⟩ := List.forall_mem_cons.1 hbl
    rw [List.cons_append, words, wordsFrom, if_pos hc]
    exact ih hbl

theorem wordsFrom_append_blanks (hbl : ∀ c ∈ bl, isBlank c = true) :
    wordsFrom word (s ++ bl) = wordsFrom word s := by
  have hnone : wordsFrom [] bl = [] := by
    simpa [words, wordsFrom] using words_append_left (s := []) hbl
  induction s generalizing word with
  | nil =>
    cases bl with
    | nil => rfl
    | cons c bl =>
      have hc := hbl c List.mem_cons_self
      rw [wordsFrom, if_pos hc] at hnone
      rw [List.nil_append, wordsFrom, wordsFrom, if_pos hc]
      split
      · exact hnone
      · exact congrArg _ hnone
  | cons c s ih => rw [List.cons_append, wordsFrom, wordsFrom, ih, ih]

end CivicReport.Text
