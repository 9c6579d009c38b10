import CivicReport.Registry.Municipal
import CivicReport.Proofs.Question.Folding
import CivicReport.Proofs.Question.Forms
import CivicReport.Proofs.Text.Replacing

/-!
Negated statuses. The table of statuses has phrases for the negation of some values, ahead of the
values themselves. Main statements: such a value is never read from a question that only negates
it, and every other value is read as if it were not negated.
-/
namespace CivicReport.Extraction

open Vocabulary Folding

variable {s v term word : List Char} {value : String} {field : Field} {q : Question} {d : Domain}

section Places

/-- The places at which a term occurs in a text. -/
def places (term s : List Char) : List Nat :=
  (List.range (s.length + 1)).filter fun i => term.isPrefixOf (s.drop i)

theorem mem_places_iff {i : Nat} :
    i ∈ places term s ↔ ∃ before after, s = before ++ (term ++ after) ∧ before.length = i := by
  rw [places, List.mem_filter, List.mem_range, List.isPrefixOf_iff_prefix]
  constructor
  · rintro ⟨hi, after, hafter⟩
    exact ⟨s.take i, after, by rw [hafter, List.take_append_drop],
      List.length_take_of_le (Nat.le_of_lt_succ hi)⟩
  · rintro ⟨before, after, rfl, rfl⟩
    rw [List.drop_left, List.length_append]
    exact ⟨by omega, List.prefix_append ..⟩

theorem infix_iff_exists_mem_places : term <:+: s ↔ ∃ i, i ∈ places term s := by
  simp only [mem_places_iff]
  constructor
  · rintro ⟨before, after, rfl⟩
    exact ⟨before.length, before, after, List.append_assoc .., rfl⟩
  · rintro ⟨_, before, after, rfl, -⟩
    exact ⟨before, after, List.append_assoc ..⟩

/-- An occurrence that lies within a part of a text is one in this part. -/
theorem mem_places_of_within {before mid after : List Char} {i : Nat}
    (hi : i ∈ places term (before ++ (mid ++ after))) (hstart : before.length ≤ i)
    (hstop : i + term.length ≤ before.length + mid.length) :
    i - before.length ∈ places term mid := by
  obtain ⟨front, rest, hsplit, rfl⟩ := mem_places_iff.1 hi
  obtain ⟨gap, rfl⟩ : before <+: front :=
    List.prefix_of_prefix_length_le (List.prefix_append ..) ⟨_, hsplit.symm⟩ hstart
  rw [List.append_assoc, List.append_cancel_left_eq, ← List.append_assoc gap] at hsplit
  rw [List.length_append] at hstop
  obtain ⟨rest', rfl⟩ : gap ++ term <+: mid :=
    List.prefix_of_prefix_length_le ⟨_, hsplit.symm⟩ (List.prefix_append ..)
      (by rw [List.length_append]; omega)
  exact mem_places_iff.2 ⟨gap, rest', List.append_assoc .., by simp⟩

end Places

/-- The word that negates the next one. -/
def negation : List Char := "לא ".toList

/-- The separate word of negation and a blank stand before a place of a text. -/
def IsNegatedAt (s : List Char) (i : Nat) : Prop :=
  s.take i = negation ∨ ' ' :: negation <:+ s.take i

instance {i : Nat} : Decidable (IsNegatedAt s i) :=
  inferInstanceAs (Decidable (s.take i = negation ∨ ' ' :: negation <:+ s.take i))

/-- A text names a status, always negates it, and names no other status but within such a
negation. -/
structure NegatesOnly (v s : List Char) : Prop where
  named : places v s ≠ []
  negated : ∀ i ∈ places v s, IsNegatedAt s i
  others : ∀ phrase ∈ statusPhrases, foldText phrase.text ≠ v →
    ∀ j ∈ places (foldText phrase.text) s, ∃ i ∈ places v s,
      i ≤ j + negation.length ∧ j + (foldText phrase.text).length ≤ i + v.length

/-- The table has a phrase for the negation of a value. -/
def HasNegation (value : String) : Prop :=
  ∃ phrase ∈ statusPhrases, foldText phrase.text = negation ++ foldText value

instance : Decidable (HasNegation value) :=
  inferInstanceAs (Decidable (∃ phrase ∈ statusPhrases, _ = negation ++ foldText value))

section Occurrences

/-- Around a named status stands its negation, at the start of the text or after a blank. -/
theorem NegatesOnly.exists_split (h : NegatesOnly v s) {i : Nat} (hi : i ∈ places v s) :
    ∃ front after, s = front ++ (negation ++ v ++ after) ∧ i = front.length + negation.length ∧
      ∀ c ∈ front.getLast?, c = ' ' := by
  obtain ⟨before, after, hsplit, rfl⟩ := mem_places_iff.1 hi
  obtain ⟨front, rfl, hfront⟩ : ∃ front, before = front ++ negation ∧
      ∀ c ∈ front.getLast?, c = ' ' := by
    have hnegated := h.negated _ hi
    rw [IsNegatedAt, hsplit, List.take_left] at hnegated
    rcases hnegated with rfl | ⟨front, rfl⟩
    · exact ⟨[], rfl, by simp⟩
    · exact ⟨front ++ [' '], by rw [List.append_assoc]; rfl, by simp⟩
  exact ⟨front, after, by rw [hsplit]; simp only [List.append_assoc], List.length_append, hfront⟩

/-- Every phrase that is found lies within a negation of the status. -/
theorem NegatesOnly.covered (h : NegatesOnly v s) {phrase : Phrase}
    (hphrase : phrase ∈ statusPhrases) {j : Nat} (hj : j ∈ places (foldText phrase.text) s) :
    ∃ front after, s = front ++ (negation ++ v ++ after) ∧ (∀ c ∈ front.getLast?, c = ' ') ∧
      front.length ≤ j ∧
      j - front.length ∈ places (foldText phrase.text) (negation ++ v) := by
  obtain ⟨i, hi, hstart, hstop⟩ : ∃ i ∈ places v s, i ≤ j + negation.length ∧
      j + (foldText phrase.text).length ≤ i + v.length := by
    by_cases heq : foldText phrase.text = v
    · rw [heq] at hj ⊢
      exact ⟨j, hj, Nat.le_add_right .., Nat.le_refl _⟩
    · exact h.others phrase hphrase heq j hj
  obtain ⟨front, after, rfl, rfl, hfront⟩ := h.exists_split hi
  refine ⟨front, after, rfl, hfront, by omega, mem_places_of_within hj (by omega) ?_⟩
  rw [List.length_append]
  omega

/-- A phrase is found exactly when it is part of the negated status. -/
theorem NegatesOnly.infix_iff (h : NegatesOnly v s) {phrase : Phrase}
    (hphrase : phrase ∈ statusPhrases) :
    foldText phrase.text <:+: s ↔ foldText phrase.text <:+: negation ++ v := by
  constructor
  · intro hcontains
    obtain ⟨j, hj⟩ := infix_iff_exists_mem_places.1 hcontains
    obtain ⟨front, after, -, -, -, hmem⟩ := h.covered hphrase hj
    exact infix_iff_exists_mem_places.2 ⟨_, hmem⟩
  · intro hcontains
    obtain ⟨i, hi⟩ := List.exists_mem_of_ne_nil _ h.named
    obtain ⟨front, after, rfl, -, -⟩ := h.exists_split hi
    exact hcontains.trans ⟨front, after, List.append_assoc ..⟩

end Occurrences

section Table

variable {phrase : Phrase}

/-- The text contains a phrase of the table. -/
def isPart (s : List Char) (phrase : Phrase) : Bool := Text.occursIn (letters phrase.text) s

theorem hasNegation_iff (hphrase : phrase ∈ statusPhrases) : HasNegation phrase.value ↔
    ∃ negated ∈ statusPhrases, letters negated.text = negation ++ letters phrase.value := by
  rw [HasNegation, foldText_statusValue hphrase]
  refine exists_congr fun negated => and_congr_right fun hmem => ?_
  rw [foldText_statusPhrases hmem]

theorem NegatesOnly.of_letters (hnamed : places v s ≠ [])
    (hnegated : ∀ i ∈ places v s, IsNegatedAt s i)
    (hothers : ∀ phrase ∈ statusPhrases, letters phrase.text ≠ v →
      ∀ j ∈ places (letters phrase.text) s, ∃ i ∈ places v s,
        i ≤ j + negation.length ∧ j + (letters phrase.text).length ≤ i + v.length) :
    NegatesOnly v s := by
  refine ⟨hnamed, hnegated, fun phrase hphrase => ?_⟩
  rw [foldText_statusPhrases hphrase]
  exact hothers phrase hphrase

/-- A negation that the table has is the first phrase found in it, and stands for another value. -/
theorem find?_isPart_of_listed (hphrase : phrase ∈ statusPhrases)
    (hlisted : HasNegation phrase.value) :
    ∃ first ∈ statusPhrases.find? (isPart (negation ++ letters phrase.value)),
      letters first.text = negation ++ letters phrase.value ∧ first.value ≠ phrase.value := by
  rw [hasNegation_iff hphrase] at hlisted
  revert phrase
  decide +kernel

/-- No negation that the table has begins with what stands behind its own blank. -/
theorem tails_of_listed (hphrase : phrase ∈ statusPhrases)
    (hlisted : HasNegation phrase.value) :
    ∀ t ∈ (negation ++ letters phrase.value).tails,
      ' ' :: t ∈ (negation ++ letters phrase.value).tails →
        ¬ t <+: negation ++ letters phrase.value := by
  rw [hasNegation_iff hphrase] at hlisted
  revert phrase
  decide +kernel

/-- The phrases for a value with a negation are words, and those within the negation end it. -/
theorem words_of_listed (hphrase : phrase ∈ statusPhrases)
    (hlisted : HasNegation phrase.value) :
    ' ' ∉ letters phrase.text ∧
      ∀ i ∈ places (letters phrase.text) (negation ++ letters phrase.value),
        (negation ++ letters phrase.value).drop i = letters phrase.text := by
  rw [hasNegation_iff hphrase] at hlisted
  revert phrase
  decide +kernel

/-- The first phrase found in a negation that the table lacks stands for the value itself. -/
theorem find?_isPart_of_not_listed (hphrase : phrase ∈ statusPhrases)
    (hunlisted : ¬ HasNegation phrase.value) :
    ∃ first ∈ statusPhrases.find? (isPart (negation ++ letters phrase.value)),
      first.value = phrase.value := by
  rw [hasNegation_iff hphrase] at hunlisted
  revert phrase
  decide +kernel

/-- What is excluded contains a phrase that a listed negation does not contain, or its value without
the negation. -/
theorem statusExclusions_of_listed (hphrase : phrase ∈ statusPhrases)
    (hlisted : HasNegation phrase.value) :
    ∀ excluded ∈ statusExclusions,
      (∃ other ∈ statusPhrases, letters other.text <:+: letters excluded ∧
        isPart (negation ++ letters phrase.value) other = false) ∨
      ∃ front ∈ (letters excluded).inits, letters excluded = front ++ letters phrase.value ∧
        ¬ negation <:+ front ∧ negation.length ≤ front.length := by
  rw [hasNegation_iff hphrase] at hlisted
  revert phrase
  decide +kernel

end Table

section Reading

variable {phrase : Phrase} {phrases : List Phrase}

theorem statusIn?_append {later : List Phrase}
    (h : ∀ phrase ∈ phrases, Text.occursIn (foldText phrase.text) s = false) :
    statusIn? field (phrases ++ later) s = statusIn? field later s := by
  induction phrases with
  | nil => rfl
  | cons phrase phrases ih =>
    rw [List.cons_append, statusIn?, h phrase List.mem_cons_self, if_neg Bool.false_ne_true]
    exact ih fun p hp => h p (List.mem_cons_of_mem _ hp)

theorem statusIn?_cons (h : Text.occursIn (foldText phrase.text) s = true) :
    statusIn? field (phrase :: phrases) s =
      if field.allows phrase.value then some phrase.value
      else statusIn? field phrases (Text.replaceAll (foldText phrase.text) [' '] s) := by
  rw [statusIn?, if_pos h]

theorem exists_of_statusIn? (h : statusIn? field phrases s = some value) :
    ∃ phrase ∈ phrases, phrase.value = value := by
  obtain ⟨phrase, hphrase, hvalue, -⟩ := exists_phrase_of_statusIn? h
  exact ⟨phrase, hphrase, hvalue⟩

theorem foldText_ne_nil (h : phrase ∈ statusPhrases) : foldText phrase.text ≠ [] := by
  rw [foldText_statusPhrases h]
  revert phrase
  decide +kernel

/-- A value of which no phrase is left is not read, whatever is taken out of the text. -/
theorem statusIn?_ne (htable : ∀ phrase ∈ phrases, phrase ∈ statusPhrases)
    (hgone : ∀ phrase ∈ phrases, phrase.value = value →
      ' ' ∉ foldText phrase.text ∧ ¬ foldText phrase.text <:+: s) :
    statusIn? field phrases s ≠ some value := by
  induction phrases generalizing s with
  | nil => exact nofun
  | cons phrase phrases ih =>
    have htable' : ∀ p ∈ phrases, p ∈ statusPhrases :=
      fun p hp => htable p (List.mem_cons_of_mem _ hp)
    rw [statusIn?]
    split
    · next hoccurs =>
      split
      · intro hvalue
        refine (hgone phrase List.mem_cons_self (Option.some.inj hvalue)).2 ?_
        exact Text.occursIn_iff.1 hoccurs
      · refine ih htable' fun p hp hvalue => ?_
        obtain ⟨hblank, hnot⟩ := hgone p (List.mem_cons_of_mem _ hp) hvalue
        refine ⟨hblank, fun hcontains => hnot (Text.infix_of_infix_replaceAll ?_ hblank hcontains)⟩
        exact foldText_ne_nil (htable phrase List.mem_cons_self)
    · exact ih htable' fun p hp => hgone p (List.mem_cons_of_mem _ hp)

theorem without_eq_self {phrases : List String}
    (h : ∀ phrase ∈ phrases, ¬ foldText phrase <:+: s) : without phrases s = s := by
  induction phrases with
  | nil => rfl
  | cons phrase phrases ih =>
    rw [without, List.foldl_cons, Text.replaceAll_eq_self (h phrase List.mem_cons_self)]
    exact ih fun p hp => h p (List.mem_cons_of_mem _ hp)

end Reading

section Negated

variable {phrase other : Phrase}

theorem NegatesOnly.occursIn_eq (h : NegatesOnly (foldText phrase.value) s)
    (hphrase : phrase ∈ statusPhrases) (hother : other ∈ statusPhrases) :
    Text.occursIn (foldText other.text) s = isPart (negation ++ letters phrase.value) other := by
  rw [Bool.eq_iff_iff, Text.occursIn_iff, h.infix_iff hother, isPart, Text.occursIn_iff,
    foldText_statusPhrases hother, foldText_statusValue hphrase]

/-- The first phrase found in a text that only negates a status is the first one found in the
negation. -/
theorem NegatesOnly.exists_append (h : NegatesOnly (foldText phrase.value) s) (field : Field)
    (hphrase : phrase ∈ statusPhrases) {first : Phrase}
    (hfirst : first ∈ statusPhrases.find? (isPart (negation ++ letters phrase.value))) :
    ∃ later, (∀ p ∈ later, p ∈ statusPhrases) ∧ statusIn? field statusPhrases s =
      if field.allows first.value then some first.value
      else statusIn? field later (Text.replaceAll (foldText first.text) [' '] s) := by
  obtain ⟨hpart, earlier, later, hsplit, hearlier⟩ := List.find?_eq_some_iff_append.1 hfirst
  have hmem {p : Phrase} (hp : p ∈ earlier ++ first :: later) : p ∈ statusPhrases := hsplit ▸ hp
  refine ⟨later, fun p hp => hmem (by simp [hp]), ?_⟩
  rw [hsplit, statusIn?_append, statusIn?_cons]
  · rw [h.occursIn_eq hphrase (hmem (by simp)), hpart]
  · intro p hp
    rw [h.occursIn_eq hphrase (hmem (by simp [hp]))]
    simpa using hearlier p hp

/-- No phrase that is excluded stands in a text that only negates a status whose negation is
listed. -/
theorem NegatesOnly.without_eq (h : NegatesOnly (foldText phrase.value) s)
    (hphrase : phrase ∈ statusPhrases) (hlisted : HasNegation phrase.value) :
    without statusExclusions s = s := by
  refine without_eq_self fun excluded hexcluded hcontains => ?_
  rw [foldText_statusExclusions hexcluded] at hcontains
  rcases statusExclusions_of_listed hphrase hlisted excluded hexcluded with
    ⟨other, hother, hwithin, hnot⟩ | ⟨front, -, hsplit, hfront, hlength⟩
  · have hoccurs : Text.occursIn (foldText other.text) s = true := by
      rw [foldText_statusPhrases hother]
      exact Text.occursIn_iff.2 (hwithin.trans hcontains)
    rw [h.occursIn_eq hphrase hother, hnot] at hoccurs
    contradiction
  · obtain ⟨before, after, hs⟩ := hcontains
    have hplace : (before ++ front).length ∈ places (foldText phrase.value) s := by
      rw [mem_places_iff, foldText_statusValue hphrase]
      exact ⟨before ++ front, after, by rw [← hs, hsplit]; simp only [List.append_assoc], rfl⟩
    obtain ⟨front', after', hs', hi, -⟩ := h.exists_split hplace
    have hends : front <:+ before ++ front := List.suffix_append ..
    refine hfront (List.suffix_of_suffix_length_le ?_ hends hlength)
    have hbegins : before ++ front <+: s := ⟨letters phrase.value ++ after, by
      rw [← hs, hsplit]; simp only [List.append_assoc]⟩
    have hbegins' : front' ++ negation <+: s := ⟨foldText phrase.value ++ after', by
      rw [hs']; simp only [List.append_assoc]⟩
    rw [(List.prefix_of_prefix_length_le hbegins hbegins' (by simp [hi])).eq_of_length
      (by simpa using hi)]
    exact List.suffix_append ..

/-- An occurrence of a listed negation that begins a word overlaps with no other one before it. -/
theorem not_straddles_of_listed (hphrase : phrase ∈ statusPhrases)
    (hlisted : HasNegation phrase.value) {front after : List Char}
    (hfront : ∀ c ∈ front.getLast?, c = ' ') :
    ¬ Text.Straddles (negation ++ letters phrase.value) front
      (negation ++ letters phrase.value ++ after) := by
  rintro ⟨t₁, t₂, ht₁, -, hsplit, hsuffix, hbegins⟩
  rcases List.eq_nil_or_concat' t₁ with rfl | ⟨t₁, c, rfl⟩
  · exact ht₁ rfl
  · have hc : c = ' ' := by
      obtain ⟨rest, rfl⟩ := hsuffix
      exact hfront c (by rw [← List.append_assoc, List.getLast?_concat]; rfl)
    rw [List.append_assoc, List.singleton_append, hc] at hsplit
    refine tails_of_listed hphrase hlisted t₂ ?_ ?_ ?_
    · exact (List.mem_tails ..).2 ⟨t₁ ++ [' '], by rw [hsplit]; simp⟩
    · exact (List.mem_tails ..).2 ⟨t₁, hsplit.symm⟩
    · refine List.prefix_of_prefix_length_le hbegins (List.prefix_append ..) ?_
      rw [hsplit, List.length_append, List.length_cons]
      omega

/-- When the listed negation is taken out, no phrase for the value is left. -/
theorem NegatesOnly.not_infix_replaceAll (h : NegatesOnly (foldText phrase.value) s)
    (hphrase : phrase ∈ statusPhrases) (hlisted : HasNegation phrase.value) :
    ¬ foldText phrase.text <:+:
      Text.replaceAll (negation ++ letters phrase.value) [' '] s := by
  obtain ⟨hblank, hwords⟩ := words_of_listed hphrase hlisted
  rw [← foldText_statusPhrases hphrase] at hblank hwords
  have hterm : negation ++ letters phrase.value ≠ [] := by simp [negation]
  by_cases hwithin : foldText phrase.text <:+: negation ++ letters phrase.value
  · obtain ⟨i, hi⟩ := infix_iff_exists_mem_places.1 hwithin
    generalize hfront : (negation ++ letters phrase.value).take i = front
    have hsplit : negation ++ letters phrase.value = front ++ foldText phrase.text := by
      rw [← hwords i hi, ← hfront, List.take_append_drop]
    rw [hsplit]
    refine Text.not_infix_replaceAll_append (foldText_ne_nil hphrase) hblank ?_
    intro u v hs
    have hplace : u.length ∈ places (foldText phrase.text) s := mem_places_iff.2 ⟨u, v, hs, rfl⟩
    obtain ⟨before, after, hs', hbefore, hle, hmem⟩ := h.covered hphrase hplace
    rw [foldText_statusValue hphrase] at hs' hmem
    refine ⟨before, ?_, hsplit ▸ not_straddles_of_listed hphrase hlisted hbefore⟩
    -- The place within the negation is the one at which the phrase ends it.
    have htake : (negation ++ letters phrase.value).take (u.length - before.length) = front := by
      refine @List.append_cancel_right _ _ (foldText phrase.text) _ ?_
      rw [← hsplit]
      nth_rewrite 2 [← List.take_append_drop (u.length - before.length)
        (negation ++ letters phrase.value)]
      rw [hwords _ hmem]
    have hlength : u.length = (before ++ front).length := by
      obtain ⟨_, _, hrest, hk⟩ := mem_places_iff.1 hmem
      rw [List.length_append, ← htake, List.length_take_of_le (by rw [hrest]; simp [hk])]
      omega
    rw [hs', hsplit] at hs
    exact (List.append_inj (by simpa using hs.symm) hlength).1
  · intro hcontains
    refine hwithin ?_
    have hleft := Text.infix_of_infix_replaceAll hterm hblank hcontains
    rwa [h.infix_iff hphrase, foldText_statusValue hphrase] at hleft

end Negated

section Statuses

theorem exists_of_status? (h : status? q d = some ("status", .text value)) :
    ∃ field, statusIn? field statusPhrases (without statusExclusions q.folded) = some value := by
  obtain ⟨field, -, hfound⟩ := Option.bind_eq_some_iff.1 h
  obtain ⟨found, hstatus, heq⟩ := Option.map_eq_some_iff.1 hfound
  rw [Prod.mk.injEq, Scalar.text.injEq] at heq
  exact ⟨field, heq.2 ▸ hstatus⟩

/-- A status whose negation is in the table is never read from a question that only negates it. -/
theorem status?_ne_of_negatesOnly (hlisted : HasNegation value)
    (h : NegatesOnly (foldText value) q.folded) : status? q d ≠ some ("status", .text value) := by
  intro hread
  obtain ⟨field, hread⟩ := exists_of_status? hread
  obtain ⟨phrase, hphrase, rfl⟩ := exists_of_statusIn? hread
  rw [h.without_eq hphrase hlisted] at hread
  obtain ⟨first, hfirst, htext, hvalue⟩ := find?_isPart_of_listed hphrase hlisted
  obtain ⟨later, hlater, heq⟩ := h.exists_append field hphrase hfirst
  rw [heq, foldText_statusPhrases (List.mem_of_find?_eq_some hfirst), htext] at hread
  split at hread
  · exact hvalue (Option.some.inj hread)
  · -- The domain does not know the negated status, so the negation has been taken out.
    refine statusIn?_ne hlater (fun other hother hsame => ?_) hread
    have hmem := hlater other hother
    rw [← hsame] at h hlisted ⊢
    refine ⟨?_, h.not_infix_replaceAll hmem hlisted⟩
    rw [foldText_statusPhrases hmem]
    exact (words_of_listed hmem hlisted).1

theorem status?_ne_of_negatesOnly_paid :
    status? (.ofText "חשבוניות לא שולם") Registry.transactions ≠ some ("status", .text "שולם") := by
  have hfolded : (Question.ofText "חשבוניות לא שולם").folded = letters "חשבוניות לא שולם" := by
    decide
  have hpaid : (⟨"שולם", "שולם"⟩ : Phrase) ∈ statusPhrases := by decide
  refine status?_ne_of_negatesOnly ((hasNegation_iff hpaid).2 (by decide)) ?_
  rw [hfolded, foldText_statusValue hpaid]
  exact .of_letters (by decide) (by decide) (by decide)

/-- Every other status is read from a question that only negates it, if the domain knows it and
nothing is excluded. -/
theorem status?_of_negatesOnly (hvalue : value ∈ statusPhrases.map (·.value))
    (hunlisted : ¬ HasNegation value) (hfield : d.field? "status" = some field)
    (hallows : field.allows value = true)
    (hexcluded : without statusExclusions q.folded = q.folded)
    (h : NegatesOnly (foldText value) q.folded) : status? q d = some ("status", .text value) := by
  obtain ⟨phrase, hphrase, rfl⟩ := List.mem_map.1 hvalue
  obtain ⟨first, hfirst, hsame⟩ := find?_isPart_of_not_listed hphrase hunlisted
  obtain ⟨later, -, heq⟩ := h.exists_append field hphrase hfirst
  rw [status?, hfield, Option.bind_some, hexcluded, heq, hsame, if_pos hallows, Option.map_some]

theorem status?_negatedClosed :
    NegatesOnly (foldText "סגור") (Question.ofText "פרויקטים לא סגור").folded ∧
      status? (.ofText "פרויקטים לא סגור") Registry.projects = some ("status", .text "סגור") := by
  have hfolded : (Question.ofText "פרויקטים לא סגור").folded = letters "פרויקטים לא סגור" := by
    decide
  have hclosed : (⟨"סגור", "סגור"⟩ : Phrase) ∈ statusPhrases := by decide
  have hnegates : NegatesOnly (foldText "סגור") (Question.ofText "פרויקטים לא סגור").folded := by
    rw [hfolded, foldText_statusValue hclosed]
    exact .of_letters (by decide) (by decide) (by decide)
  refine ⟨hnegates, status?_of_negatesOnly (by decide) ?_ rfl (by decide) ?_ hnegates⟩
  · exact mt (hasNegation_iff hclosed).1 (by decide)
  · rw [hfolded]
    decide

end Statuses

end CivicReport.Extraction
