import CivicReport.Text.Blank
import Mathlib.Data.List.TakeWhile

/-!
What trimming leaves of a text. Main statement: nothing is left exactly of white space, so trimming
a second time never empties a text.
-/
namespace CivicReport.Text

variable {s : List Char}

theorem forall_mem_dropWhile_isBlank_iff :
    (∀ c ∈ s.dropWhile isBlank, isBlank c = true) ↔ ∀ c ∈ s, isBlank c = true := by
  induction s with
  | nil => rfl
  | cons first rest ih =>
    rw [List.dropWhile_cons]
    split
    · next hblank => rw [ih, List.forall_mem_cons, and_iff_right hblank]
    · rfl

/-- What is trimmed off is white space. -/
theorem forall_mem_trim_iff :
    (∀ c ∈ trim s, isBlank c = true) ↔ ∀ c ∈ s, isBlank c = true := by
  simp only [trim, trimRight, trimLeft, List.mem_reverse, forall_mem_dropWhile_isBlank_iff]

theorem trim_eq_nil_iff : trim s = [] ↔ ∀ c ∈ s, isBlank c = true := by
  rw [trim, trimRight, List.reverse_eq_nil_iff, List.dropWhile_eq_nil_iff]
  simp only [List.mem_reverse, trimLeft, forall_mem_dropWhile_isBlank_iff]

/-- Only white space at the ends is trimmed off. -/
theorem exists_append_trim (s : List Char) : ∃ front back, s = front ++ (trim s ++ back) ∧
    (∀ c ∈ front, isBlank c = true) ∧ ∀ c ∈ back, isBlank c = true := by
  refine ⟨s.takeWhile isBlank, ((trimLeft s).reverse.takeWhile isBlank).reverse, ?_,
    fun c => List.mem_takeWhile_imp, fun c hc => List.mem_takeWhile_imp (List.mem_reverse.1 hc)⟩
  rw [trim, trimRight, ← List.reverse_append, List.takeWhile_append_dropWhile, List.reverse_reverse,
    trimLeft, List.takeWhile_append_dropWhile]

/-- Before another character only the white space in front of a text is trimmed off. -/
theorem exists_trim_append {x : List Char} {c : Char} (hc : isBlank c = false) :
    ∃ bl, (∀ y ∈ bl, isBlank y = true) ∧ trim (x ++ [c]) = trim x ++ (bl ++ [c]) := by
  have hleft : trimLeft (x ++ [c]) = trimLeft x ++ [c] := by
    rw [trimLeft, List.dropWhile_append]
    split
    · next hempty => rw [trimLeft, List.isEmpty_iff.1 hempty, List.dropWhile_cons, hc]; rfl
    · rfl
  refine ⟨((trimLeft x).reverse.takeWhile isBlank).reverse, fun y hy => ?_, ?_⟩
  · exact List.mem_takeWhile_imp (List.mem_reverse.1 hy)
  · rw [trim, hleft, trimRight, List.reverse_append, List.reverse_singleton, List.singleton_append,
      List.dropWhile_cons, hc, if_neg Bool.false_ne_true, List.reverse_cons, trim, trimRight,
      ← List.append_assoc, ← List.reverse_append, List.takeWhile_append_dropWhile]

theorem trimmed_eq_empty_iff {s : String} : trimmed s = "" ↔ (trim s.toList).isEmpty = true := by
  rw [trimmed, ← String.toList_inj]
  simp

theorem trimmed_trimmed_eq_empty_iff {s : String} : trimmed (trimmed s) = "" ↔ trimmed s = "" := by
  simp only [trimmed_eq_empty_iff, List.isEmpty_iff]
  rw [trimmed, String.toList_ofList, trim_eq_nil_iff, forall_mem_trim_iff, trim_eq_nil_iff]

end CivicReport.Text
