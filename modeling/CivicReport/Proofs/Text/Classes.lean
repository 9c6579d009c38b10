import CivicReport.Text.Blank
import CivicReport.Text.Digit
import Mathlib.Tactic.ByContra

/-!
How the classes of characters lie to each other. A table of ranges lists finitely many code points,
and questions about a small table are decided over all of them. Main statement: a blank is never a
digit.
-/
namespace CivicReport.Text

variable {c : Char}

section Decidable

variable {P : Char → Prop} [DecidablePred P]

-- What is asked of the characters of a text is decided along the text, and not by going through all
-- characters that there are.

instance (priority := high) decidableForallText {s : List Char} : Decidable (∀ c ∈ s, P c) :=
  List.decidableBAll P s

instance (priority := high) decidableForallChar {o : Option Char} : Decidable (∀ c ∈ o, P c) :=
  o.decidableForallMem

instance (priority := high) decidableExistsChar {o : Option Char} : Decidable (∃ c ∈ o, P c) :=
  o.decidableExistsMem

end Decidable

/-- The code points of a table of ranges. -/
def codes (ranges : List (Nat × Nat)) : List Nat :=
  ranges.flatMap fun r => List.range' r.1 (r.2 + 1 - r.1)

theorem mem_codes_of_inRanges {ranges : List (Nat × Nat)} {n : Nat}
    (h : inRanges ranges n = true) : n ∈ codes ranges := by
  induction ranges with
  | nil => contradiction
  | cons r ranges ih =>
    obtain ⟨lo, hi⟩ := r
    rw [codes, List.flatMap_cons, List.mem_append, List.mem_range'_1]
    rw [inRanges] at h
    split at h
    · contradiction
    · rcases Bool.or_eq_true_iff.1 h with hhi | hrest
      · have hhi : n ≤ hi := by simpa using hhi
        exact .inl (by omega)
      · exact .inr (ih hrest)

/-- What holds of every code point of white space holds of a blank. -/
theorem of_isBlank {P : Nat → Prop} (hall : ∀ n ∈ codes blankRanges, P n)
    (h : isBlank c = true) : P c.toNat :=
  hall _ (mem_codes_of_inRanges h)

theorem isDigit_eq_false_of_isBlank (h : isBlank c = true) : isDigit c = false :=
  of_isBlank (P := fun n => inRanges digitRanges n = false) (by decide) h

theorem isBlank_eq_false_of_isDigit (h : isDigit c = true) : isBlank c = false := by
  by_contra hblank
  rw [isDigit_eq_false_of_isBlank (by simpa using hblank)] at h
  contradiction

end CivicReport.Text
