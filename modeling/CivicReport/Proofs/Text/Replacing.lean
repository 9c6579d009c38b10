import CivicReport.Text.Search
import Mathlib.Data.List.Infix

/-!
What replacing the occurrences of a term makes of a text. Replacing goes over the text once, from
occurrence to occurrence. Main statements: two parts of a text are replaced apart when no
occurrence lies across their border, and a word that is left after a replacement by blanks has been
in the text, with the rest of the text replaced as if it stood alone.
-/
namespace CivicReport.Text

variable {term by_ s u v word : List Char} {mark : Char}

theorem replaceFrom_length_append (skipped : List Char) :
    replaceFrom term by_ skipped.length (skipped ++ s) = replaceFrom term by_ 0 s := by
  induction skipped with
  | nil => rfl
  | cons c skipped ih => exact ih

theorem replaceAll_append_left (hterm : term ≠ []) :
    replaceAll term by_ (term ++ s) = by_ ++ replaceAll term by_ s := by
  obtain ⟨c, rest, rfl⟩ := List.exists_cons_of_ne_nil hterm
  have hbegins : (c :: rest).isPrefixOf (c :: (rest ++ s)) = true :=
    List.isPrefixOf_iff_prefix.2 (List.prefix_append (c :: rest) s)
  rw [replaceAll, List.cons_append, replaceFrom, if_pos hbegins, List.length_cons,
    Nat.add_sub_cancel, replaceFrom_length_append, replaceAll]

theorem replaceAll_cons {c : Char} (h : ¬ term <+: c :: s) :
    replaceAll term by_ (c :: s) = c :: replaceAll term by_ s := by
  rw [replaceAll, replaceFrom, if_neg (mt List.isPrefixOf_iff_prefix.1 h), replaceAll]

/-- Induction along a replacement: an occurrence at a time, or a character where none begins. -/
@[elab_as_elim]
theorem scan_induction (hterm : term ≠ []) {motive : List Char → Prop} (nil : motive [])
    (occurrence : ∀ s, motive s → motive (term ++ s))
    (keep : ∀ c s, ¬ term <+: c :: s → motive s → motive (c :: s)) (s : List Char) : motive s := by
  induction hlength : s.length using Nat.strongRecOn generalizing s with
  | ind n ih =>
    subst hlength
    cases s with
    | nil => exact nil
    | cons c s =>
      by_cases hbegins : term <+: c :: s
      · obtain ⟨rest, hrest⟩ := hbegins
        have hpos := List.length_pos_of_ne_nil hterm
        rw [← hrest]
        refine occurrence rest (ih _ ?_ rest rfl)
        rw [← hrest, List.length_append]
        omega
      · exact keep c s hbegins (ih _ (Nat.lt_succ_self _) s rfl)

theorem of_mem_replaceAll {c : Char} (hterm : term ≠ []) (h : c ∈ replaceAll term by_ s) :
    c ∈ by_ ∨ c ∈ s := by
  induction s using scan_induction hterm with
  | nil => exact .inr h
  | occurrence s ih =>
    rw [replaceAll_append_left hterm, List.mem_append] at h
    rcases h with h | h
    · exact .inl h
    · exact (ih h).imp_right (List.mem_append_right term)
  | keep d s hkeep ih =>
    rw [replaceAll_cons hkeep, List.mem_cons] at h
    rcases h with rfl | h
    · exact .inr List.mem_cons_self
    · exact (ih h).imp_right (List.mem_cons_of_mem d)

/-- An occurrence of a term lies across the border between two texts. -/
def Straddles (term u v : List Char) : Prop :=
  ∃ t₁ t₂, t₁ ≠ [] ∧ t₂ ≠ [] ∧ term = t₁ ++ t₂ ∧ t₁ <:+ u ∧ t₂ <+: v

theorem Straddles.of_suffix {w : List Char} (h : Straddles term u v) (hu : u <:+ w) :
    Straddles term w v := by
  obtain ⟨t₁, t₂, h₁, h₂, hterm, hsuffix, hbegins⟩ := h
  exact ⟨t₁, t₂, h₁, h₂, hterm, hsuffix.trans hu, hbegins⟩

/-- Texts with no occurrence across their border are replaced apart. -/
theorem replaceAll_append (hterm : term ≠ []) (hapart : ¬ Straddles term u v) :
    replaceAll term by_ (u ++ v) = replaceAll term by_ u ++ replaceAll term by_ v := by
  induction u using scan_induction hterm with
  | nil => rfl
  | occurrence u ih =>
    rw [List.append_assoc, replaceAll_append_left hterm, replaceAll_append_left hterm,
      List.append_assoc, ih fun h => hapart (h.of_suffix (List.suffix_append ..))]
  | keep c u hkeep ih =>
    have hkeep' : ¬ term <+: c :: (u ++ v) := by
      rintro ⟨rest, hrest⟩
      rw [← List.cons_append] at hrest
      rcases List.append_eq_append_iff.1 hrest with ⟨_, hu, -⟩ | ⟨t₂, rfl, rfl⟩
      · exact hkeep ⟨_, hu.symm⟩
      · refine hapart ⟨c :: u, t₂, List.cons_ne_nil c u, ?_, rfl, List.suffix_refl _,
          List.prefix_append ..⟩
        rintro rfl
        exact hkeep (by rw [List.append_nil])
    rw [List.cons_append, replaceAll_cons hkeep', replaceAll_cons hkeep, List.cons_append,
      ih fun h => hapart (h.of_suffix (List.suffix_cons ..))]

theorem replaceAll_eq_self (h : ¬ term <:+: s) : replaceAll term by_ s = s := by
  induction s with
  | nil => rfl
  | cons c s ih =>
    rw [replaceAll_cons fun hbegins => h hbegins.isInfix,
      ih fun hcontains => h (List.infix_cons hcontains)]

/-- Letters at the front that are no replacement have been there. -/
theorem exists_of_replaceAll_eq_append (hterm : term ≠ []) (hmark : mark ∉ word)
    (h : replaceAll term [mark] s = word ++ v) :
    ∃ v', s = word ++ v' ∧ replaceAll term [mark] v' = v := by
  induction s using scan_induction hterm generalizing word with
  | nil =>
    obtain ⟨rfl, rfl⟩ := List.append_eq_nil_iff.1 h.symm
    exact ⟨[], rfl, rfl⟩
  | occurrence s ih =>
    rw [replaceAll_append_left hterm] at h
    cases word with
    | nil => exact ⟨term ++ s, rfl, by rw [replaceAll_append_left hterm, h, List.nil_append]⟩
    | cons c word =>
      obtain ⟨rfl, -⟩ := List.cons_eq_cons.1 h
      exact absurd List.mem_cons_self hmark
  | keep c s hkeep ih =>
    rw [replaceAll_cons hkeep] at h
    cases word with
    | nil => exact ⟨c :: s, rfl, by rw [replaceAll_cons hkeep, h, List.nil_append]⟩
    | cons d word =>
      obtain ⟨rfl, htail⟩ := List.cons_eq_cons.1 h
      obtain ⟨v', rfl, hv'⟩ := ih (fun hmem => hmark (List.mem_cons_of_mem c hmem)) htail
      exact ⟨v', rfl, hv'⟩

/-- A word that is left has been there, and what follows it is replaced as if it stood alone. -/
theorem exists_of_replaceAll_eq (hterm : term ≠ []) (hword : word ≠ []) (hmark : mark ∉ word)
    (h : replaceAll term [mark] s = u ++ (word ++ v)) :
    ∃ u' v', s = u' ++ (word ++ v') ∧ replaceAll term [mark] v' = v := by
  induction s using scan_induction hterm generalizing u with
  | nil =>
    obtain ⟨-, hnil⟩ := List.append_eq_nil_iff.1 h.symm
    exact absurd (List.append_eq_nil_iff.1 hnil).1 hword
  | occurrence s ih =>
    rw [replaceAll_append_left hterm] at h
    cases u with
    | nil =>
      obtain ⟨c, letters, rfl⟩ := List.exists_cons_of_ne_nil hword
      obtain ⟨rfl, -⟩ := List.cons_eq_cons.1 h
      exact absurd List.mem_cons_self hmark
    | cons c u =>
      obtain ⟨u', v', rfl, hv'⟩ := ih (List.cons_eq_cons.1 h).2
      exact ⟨term ++ u', v', (List.append_assoc ..).symm, hv'⟩
  | keep c s hkeep ih =>
    cases u with
    | nil => exact ⟨[], exists_of_replaceAll_eq_append hterm hmark h⟩
    | cons d u =>
      rw [replaceAll_cons hkeep] at h
      obtain ⟨u', v', rfl, hv'⟩ := ih (List.cons_eq_cons.1 h).2
      exact ⟨c :: u', v', rfl, hv'⟩

/-- Of a word that stands only behind another text, nothing is left when both are replaced, unless
an occurrence of both lies across the start of such a place. -/
theorem not_infix_replaceAll_append {intro : List Char} (hword : word ≠ []) (hmark : mark ∉ word)
    (hbehind : ∀ u v, s = u ++ (word ++ v) → ∃ front, u = front ++ intro ∧
      ¬ Straddles (intro ++ word) front (intro ++ word ++ v)) :
    ¬ word <:+: replaceAll (intro ++ word) [mark] s := by
  rintro ⟨u, v, hcontains⟩
  have hterm : intro ++ word ≠ [] := List.append_ne_nil_of_right_ne_nil _ hword
  obtain ⟨u', v', rfl, rfl⟩ := exists_of_replaceAll_eq hterm hword hmark
    (by rw [← hcontains, List.append_assoc])
  obtain ⟨front, rfl, hapart⟩ := hbehind u' v' rfl
  -- The word at this place has been replaced, so a mark stands in its place.
  rw [List.append_assoc, List.append_assoc, ← List.append_assoc intro,
    replaceAll_append hterm hapart, replaceAll_append_left hterm,
    ← List.append_assoc _ [mark], ← List.append_assoc u, List.append_cancel_right_eq] at hcontains
  have hlast := congrArg List.getLast? hcontains
  rw [List.getLast?_append_of_ne_nil _ hword, List.getLast?_concat] at hlast
  exact hmark (List.mem_of_getLast? hlast)

/-- A replacement by a mark makes no word without it. -/
theorem infix_of_infix_replaceAll (hterm : term ≠ []) (hmark : mark ∉ word)
    (h : word <:+: replaceAll term [mark] s) : word <:+: s := by
  by_cases hword : word = []
  · exact hword ▸ List.nil_infix
  · obtain ⟨u, v, huv⟩ := h
    obtain ⟨u', v', rfl, -⟩ := exists_of_replaceAll_eq hterm hword hmark
      (by rw [← huv, List.append_assoc])
    exact ⟨u', v', List.append_assoc ..⟩

end CivicReport.Text
