import CivicReport.Registry.Municipal
import CivicReport.Proofs.Question.Folding
import CivicReport.Proofs.Question.Numbers
import CivicReport.Proofs.Text.Replacing

/-!
Questions with a single number. A word for a project and its number lets no other word come
between them, so that the text before the number ends for a project as it never ends for a year or
an amount; taking out date bounds keeps it so. Main statement: the number makes at most one filter,
unless taking out a date bound makes a comparison that the question does not have.
-/
namespace CivicReport.Extraction

open Pattern

variable {q : Question} {d : Domain} {s a n b : List Char}

/-- The digits of a text are one run. -/
structure SoleNumber (s a n b : List Char) : Prop where
  split : s = a ++ (n ++ b)
  ne_nil : n ≠ []
  digits : ∀ x ∈ n, Text.isDigit x = true
  before : ∀ x ∈ a, Text.isDigit x = false
  after : ∀ x ∈ b, Text.isDigit x = false

/-- What stands before a digit is what stands before the run, and digits of it. -/
theorem SoleNumber.exists_append (h : SoleNumber s a n b) {front rest : List Char} {x : Char}
    (hs : s = front ++ x :: rest) (hx : Text.isDigit x = true) :
    ∃ ds, front = a ++ ds ∧ ∀ y ∈ ds, Text.isDigit y = true := by
  rw [h.split] at hs
  rcases List.append_eq_append_iff.1 hs with ⟨ds, rfl, hrest⟩ | ⟨bs, rfl, hbs⟩
  · refine ⟨ds, rfl, ?_⟩
    rcases List.append_eq_append_iff.1 hrest with ⟨_, -, rfl⟩ | ⟨_, rfl, -⟩
    · have hafter := h.after x (by simp)
      rw [hx] at hafter
      contradiction
    · exact fun y hy => h.digits y (List.mem_append_left _ hy)
  · cases bs with
    | nil => exact ⟨[], by simp, by simp⟩
    | cons y bs =>
      obtain ⟨rfl, -⟩ := List.cons_eq_cons.1 hbs
      have hbefore := h.before x (by simp)
      rw [hx] at hbefore
      contradiction

/-- A digit that follows no digit is the first of the run. -/
theorem SoleNumber.eq_before (h : SoleNumber s a n b) {front rest : List Char} {x : Char}
    (hs : s = front ++ x :: rest) (hx : Text.isDigit x = true)
    (hlast : ∀ y ∈ front.getLast?, Text.isDigit y = false) : front = a := by
  obtain ⟨ds, rfl, hds⟩ := h.exists_append hs hx
  rcases List.eq_nil_or_concat ds with rfl | ⟨ds, y, rfl⟩
  · rw [List.append_nil]
  · rw [List.concat_eq_append] at hlast hds
    have hfalse := hlast y (by rw [← List.append_assoc, List.getLast?_concat]; rfl)
    rw [hds y (by simp)] at hfalse
    contradiction

section Openings

/-- Apart from blanks, a text ends in one of some words, and nothing or a blank stands before it. -/
def EndsInWord (words : List String) (a : List Char) : Prop :=
  ∃ front sep w, a = front ++ (sep ++ w) ∧ Opens front sep ∧
    ∃ t ∈ words, w.filter (!Text.isBlank ·) = t.toList

/-- The words before a year or an amount. -/
def openers : List String := yearWords ++ comparisons

theorem openers_plain : ∀ t ∈ openers, t.toList ≠ [] ∧ ∀ x ∈ t.toList, Text.isDigit x = false := by
  decide

theorem OpensYear.endsInWord {opening : List Char} (h : OpensYear a opening) :
    EndsInWord openers (a ++ opening) := by
  obtain ⟨sep, hsep, word, hword, bl, hbl, rfl⟩ := h
  have hplain : ∀ word ∈ yearWords, word.toList.filter (!Text.isBlank ·) = word.toList := by decide
  refine ⟨a, sep, word.toList ++ bl, rfl, hsep, word, List.mem_append_left _ hword, ?_⟩
  rw [List.filter_append, hplain word hword, filter_eq_nil_of_blank hbl, List.append_nil]

theorem OpensAmount.endsInWord {opening : List Char} (h : OpensAmount a opening) :
    EndsInWord openers (a ++ opening) := by
  obtain ⟨sep, hsep, words, ⟨t, ht, hwords⟩, rfl⟩ := h
  exact ⟨a, sep, words, rfl, hsep, t, List.mem_append_right _ ht, hwords⟩

/-- No digit is the last character before a year or an amount. -/
theorem EndsInWord.isDigit_getLast (h : EndsInWord openers a) :
    ∀ x ∈ a.getLast?, Text.isDigit x = false := by
  obtain ⟨front, sep, w, rfl, -, t, ht, hw⟩ := h
  obtain ⟨hne, hplain⟩ := openers_plain t ht
  have hwne : w ≠ [] := by
    rintro rfl
    exact hne hw.symm
  intro x hx
  rw [← List.append_assoc, List.getLast?_append_of_ne_nil _ hwne] at hx
  cases hblank : Text.isBlank x with
  | true => exact Text.isDigit_eq_false_of_isBlank hblank
  | false =>
    refine hplain x ?_
    rw [← hw, List.mem_filter]
    exact ⟨List.mem_of_getLast? hx, by rw [hblank]; rfl⟩

/-- Two letters of each word for a project. No date bound can share one of them. -/
def stems : List String := ["בר", "יק", "ct"]

/-- The marks of numbers, without blanks. -/
def marks : List String := ("" :: numberMarks).flatMap fun no => ["", "#"].map (no ++ ·)

/-- A text ends as it does before the number of a project. -/
def BelongsToProject (a : List Char) : Prop :=
  ∃ front, ∃ stem ∈ stems, ∃ x tail, (∀ c ∈ x, Text.isBlank c = false) ∧
    (∃ t ∈ marks, tail.filter (!Text.isBlank ·) = t.toList) ∧
    a = front ++ (stem.toList ++ (x ++ tail))

theorem IsMark.exists_filter_eq {mark : List Char} (h : IsMark mark) :
    ∃ t ∈ marks, mark.filter (!Text.isBlank ·) = t.toList := by
  have hnos : ∀ t ∈ numberMarks, t.toList.filter (!Text.isBlank ·) = t.toList := by decide
  have hsigns : ∀ t ∈ ["", "#"], t.toList.filter (!Text.isBlank ·) = t.toList := by decide
  obtain ⟨no, hno, sign, hsign, rfl⟩ := h
  obtain ⟨t, ht, hfilter⟩ :
      ∃ t ∈ "" :: numberMarks, no.filter (!Text.isBlank ·) = t.toList := by
    rcases hno with rfl | ⟨t, ht, bl, hbl, rfl⟩
    · exact ⟨"", List.mem_cons_self, rfl⟩
    · refine ⟨t, List.mem_cons_of_mem _ ht, ?_⟩
      rw [List.filter_append, hnos t ht, filter_eq_nil_of_blank hbl, List.append_nil]
  refine ⟨t ++ sign, List.mem_flatMap.2 ⟨t, ht, List.mem_map_of_mem hsign⟩, ?_⟩
  rw [List.filter_append, hfilter, hsigns sign hsign, String.toList_append]

theorem marks_plain : ∀ t ∈ marks, ∀ x ∈ t.toList, Text.isDigit x = false := by
  decide +kernel

theorem stems_of_projectWords : ∀ word ∈ projectWords, ∃ stem ∈ stems, ∃ front ∈ word.toList.inits,
    ∃ rest ∈ word.toList.tails, word.toList = front ++ (stem.toList ++ rest) ∧
      ∀ c ∈ rest, Text.isBlank c = false := by
  decide +kernel

theorem OpensProject.belongsToProject {opening : List Char} (h : OpensProject a opening) :
    BelongsToProject (a ++ opening) := by
  obtain ⟨word, hword, x, bl, mark, hx, hbl, hmark, rfl⟩ := h
  obtain ⟨stem, hstem, front, -, rest, -, hsplit, hrest⟩ := stems_of_projectWords word hword
  obtain ⟨t, ht, hfilter⟩ := hmark.exists_filter_eq
  refine ⟨a ++ front, stem, hstem, rest ++ x, bl ++ mark, ?_, ⟨t, ht, ?_⟩, ?_⟩
  · exact List.forall_mem_append.2 ⟨hrest, hx⟩
  · rw [List.filter_append, filter_eq_nil_of_blank hbl, hfilter, List.nil_append]
  · rw [hsplit]
    simp only [List.append_assoc]

theorem BelongsToProject.of_concat {y : Char} (h : BelongsToProject (a ++ [y]))
    (hy : Text.isDigit y = true) : BelongsToProject a := by
  obtain ⟨front, stem, hstem, x, tail, hx, ⟨t, ht, htail⟩, heq⟩ := h
  have hstems : ∀ stem ∈ stems, stem.toList ≠ [] ∧
      ∀ c ∈ stem.toList.getLast?, Text.isDigit c = false := by decide
  -- The digit is the last character of the mark, of what is attached to the word, or of the word.
  rcases List.eq_nil_or_concat' tail with rfl | ⟨tail, z, rfl⟩
  · rcases List.eq_nil_or_concat' x with rfl | ⟨x, z, rfl⟩
    · have hlast := congrArg List.getLast? heq
      rw [List.getLast?_concat, List.append_nil, List.append_nil,
        List.getLast?_append_of_ne_nil _ (hstems stem hstem).1] at hlast
      rw [(hstems stem hstem).2 y hlast.symm] at hy
      contradiction
    · simp only [List.append_nil, ← List.append_assoc] at heq
      obtain ⟨rfl, -⟩ := List.append_inj' heq rfl
      refine ⟨front, stem, hstem, x, [], fun c hc => hx c (List.mem_append_left _ hc),
        ⟨t, ht, htail⟩, ?_⟩
      simp only [List.append_nil, List.append_assoc]
  · simp only [← List.append_assoc] at heq
    obtain ⟨-, hyz⟩ := List.append_inj' heq rfl
    obtain rfl := List.singleton_inj.1 hyz
    have hmem : y ∈ (tail ++ [y]).filter (!Text.isBlank ·) := by
      rw [List.mem_filter, Text.isBlank_eq_false_of_isDigit hy]
      exact ⟨by simp, rfl⟩
    rw [htail] at hmem
    rw [marks_plain t ht y hmem] at hy
    contradiction

theorem BelongsToProject.of_append {ds : List Char} (h : BelongsToProject (a ++ ds))
    (hds : ∀ y ∈ ds, Text.isDigit y = true) : BelongsToProject a := by
  induction ds generalizing a with
  | nil => rwa [List.append_nil] at h
  | cons y ds ih =>
    rw [List.append_cons] at h
    exact (ih h fun z hz => hds z (List.mem_cons_of_mem y hz)).of_concat (hds y List.mem_cons_self)

theorem openers_apart : ∀ t ∈ openers, (∀ stem ∈ stems, ¬ stem.toList <:+: t.toList) ∧
    ∀ mark ∈ marks, mark.toList = [] ∨ mark.toList.getLast? ≠ t.toList.getLast? := by
  decide +kernel

/-- Before a project stands something else than before a year or an amount. -/
theorem BelongsToProject.not_endsInWord (h : BelongsToProject a) : ¬ EndsInWord openers a := by
  rintro ⟨front', sep, w, heq', hsep, t, ht, hw⟩
  obtain ⟨front, stem, hstem, x, tail, hx, ⟨mark, hmark, htail⟩, heq⟩ := h
  obtain ⟨happart, hlasts⟩ := openers_apart t ht
  have htne := (openers_plain t ht).1
  have hstems : ∀ stem ∈ stems, (∀ c ∈ stem.toList, Text.isBlank c = false) ∧
      stem.toList.filter (!Text.isBlank ·) = stem.toList := by decide
  -- The word cannot contain the stem.
  have hnot {l r : List Char} (h : w = l ++ (stem.toList ++ r)) : False := by
    refine happart stem hstem ⟨l.filter (!Text.isBlank ·), r.filter (!Text.isBlank ·), ?_⟩
    rw [← hw, h, List.filter_append, List.filter_append, (hstems stem hstem).2, List.append_assoc]
  rw [heq] at heq'
  by_cases hnil : mark.toList = []
  · -- From the stem on, blanks stand only at the end, so the word begins before the stem.
    rw [hnil] at htail
    rw [← List.append_assoc front'] at heq'
    rcases List.append_eq_append_iff.1 heq' with ⟨bs, hbs, hrest⟩ | ⟨bs, -, rfl⟩
    · rcases List.eq_nil_or_concat' bs with rfl | ⟨bs, z, rfl⟩
      · exact hnot (l := []) hrest.symm
      · have hz : Text.isBlank z = true := by
          rcases hsep with ⟨rfl, rfl⟩ | ⟨y, hy, rfl⟩
          · simp at hbs
          · rw [← List.append_assoc] at hbs
            obtain ⟨-, hyz⟩ := List.append_inj' hbs rfl
            exact List.singleton_inj.1 hyz ▸ hy
        rw [← List.append_assoc] at hrest
        rcases List.append_eq_append_iff.1 hrest with ⟨as, -, rfl⟩ | ⟨cs, hcs, -⟩
        · rw [List.filter_append, hw] at htail
          exact htne (List.append_eq_nil_iff.1 htail).2
        · have hmem : z ∈ stem.toList ++ x := by
            rw [hcs]
            simp
          rw [List.forall_mem_append.2 ⟨(hstems stem hstem).1, hx⟩ z hmem] at hz
          contradiction
    · exact hnot rfl
  · refine (hlasts mark hmark).resolve_left hnil ?_
    have hletters := congrArg (fun l => (l.filter (!Text.isBlank ·)).getLast?) heq'
    simp only [List.filter_append, hw, htail, ← List.append_assoc] at hletters
    rwa [List.getLast?_append_of_ne_nil _ hnil, List.getLast?_append_of_ne_nil _ htne] at hletters

end Openings

section DateBounds

variable {phrase : String} {phrases : List String}

theorem dateBounds_plain (hphrase : phrase ∈ Vocabulary.dateBounds) :
    Folding.foldText phrase ≠ [] ∧ ∀ c ∈ Folding.foldText phrase, Text.isDigit c = false := by
  rw [Folding.foldText_dateBounds hphrase]
  revert phrase
  decide +kernel

/-- A date bound neither contains the letters of a word for a project nor shares one of them. -/
theorem dateBounds_apart (hphrase : phrase ∈ Vocabulary.dateBounds) :
    ∀ t ∈ (Folding.foldText phrase).tails, t ≠ [] →
      ∀ stem ∈ stems, ¬ t <+: stem.toList ∧ ¬ stem.toList <+: t := by
  rw [Folding.foldText_dateBounds hphrase]
  revert phrase
  decide +kernel

/-- Behind the blank of a date bound stands something else than the mark of a number. -/
theorem dateBounds_split (hphrase : phrase ∈ Vocabulary.dateBounds) :
    ∃ first ∈ (Folding.foldText phrase).inits, ∃ second ∈ (Folding.foldText phrase).tails,
      Folding.foldText phrase = first ++ ' ' :: second ∧
        ∀ mark ∈ marks, ¬ second.filter (!Text.isBlank ·) <:+: mark.toList := by
  rw [Folding.foldText_dateBounds hphrase]
  revert phrase
  decide +kernel

theorem SoleNumber.replaceAll (h : SoleNumber s a n b) (hphrase : phrase ∈ Vocabulary.dateBounds) :
    SoleNumber (Text.replaceAll (Folding.foldText phrase) [' '] s)
      (Text.replaceAll (Folding.foldText phrase) [' '] a) n
      (Text.replaceAll (Folding.foldText phrase) [' '] b) := by
  obtain ⟨hne, hplain⟩ := dateBounds_plain hphrase
  -- No character of the phrase is in the run.
  have happart {c : Char} (hc : c ∈ Folding.foldText phrase) : c ∉ n := by
    intro hmem
    have hdigit := h.digits c hmem
    rw [hplain c hc] at hdigit
    contradiction
  have hbefore : ¬ Text.Straddles (Folding.foldText phrase) a (n ++ b) := by
    rintro ⟨t₁, t₂, -, ht₂, hsplit, -, hbegins⟩
    obtain ⟨c, t₂, rfl⟩ := List.exists_cons_of_ne_nil ht₂
    obtain ⟨y, n', hn⟩ := List.exists_cons_of_ne_nil h.ne_nil
    rw [hn, List.cons_append, List.cons_prefix_cons] at hbegins
    obtain ⟨rfl, -⟩ := hbegins
    exact happart (c := c) (by rw [hsplit]; simp) (by rw [hn]; exact List.mem_cons_self)
  have hafter : ¬ Text.Straddles (Folding.foldText phrase) n b := by
    rintro ⟨t₁, t₂, ht₁, -, hsplit, hsuffix, -⟩
    obtain ⟨c, t₁, rfl⟩ := List.exists_cons_of_ne_nil ht₁
    exact happart (c := c) (by rw [hsplit]; simp) (hsuffix.subset List.mem_cons_self)
  have hwithin : ¬ Folding.foldText phrase <:+: n := by
    intro hcontains
    obtain ⟨c, hc⟩ := List.exists_mem_of_ne_nil _ hne
    exact happart hc (hcontains.subset hc)
  have hdigits {t : List Char} (ht : ∀ c ∈ t, Text.isDigit c = false) :
      ∀ c ∈ Text.replaceAll (Folding.foldText phrase) [' '] t, Text.isDigit c = false := by
    intro c hc
    rcases Text.of_mem_replaceAll hne hc with hmark | hmem
    · obtain rfl := List.mem_singleton.1 hmark
      decide
    · exact ht c hmem
  refine ⟨?_, h.ne_nil, h.digits, hdigits h.before, hdigits h.after⟩
  rw [h.split, Text.replaceAll_append hne hbefore, Text.replaceAll_append hne hafter,
    Text.replaceAll_eq_self hwithin]

theorem BelongsToProject.replaceAll (h : BelongsToProject a)
    (hphrase : phrase ∈ Vocabulary.dateBounds) :
    BelongsToProject (Text.replaceAll (Folding.foldText phrase) [' '] a) := by
  obtain ⟨front, stem, hstem, x, tail, hx, ⟨mark, hmark, htail⟩, rfl⟩ := h
  obtain ⟨first, -, second, -, hsplit, hsecond⟩ := dateBounds_split hphrase
  have hne := (dateBounds_plain hphrase).1
  have hstems : ∀ stem ∈ stems, ∀ c ∈ stem.toList, Text.isBlank c = false := by decide
  have hbefore : ¬ Text.Straddles (Folding.foldText phrase) front (stem.toList ++ (x ++ tail)) := by
    rintro ⟨t₁, t₂, -, ht₂, ht, -, hbegins⟩
    have htails : t₂ ∈ (Folding.foldText phrase).tails := (List.mem_tails ..).2 ⟨t₁, ht.symm⟩
    obtain ⟨hwithin, hcontains⟩ := dateBounds_apart hphrase t₂ htails ht₂ stem hstem
    exact (List.prefix_or_prefix_of_prefix hbegins (List.prefix_append ..)).elim hwithin hcontains
  have hwithin : ¬ Folding.foldText phrase <:+: stem.toList ++ (x ++ tail) := by
    rintro ⟨l, r, hlr⟩
    -- The blank of the phrase cannot be in the word, so that its second part would be in the mark.
    have hblank : ' ' ∉ stem.toList ++ x := by
      intro hmem
      have hfalse := List.forall_mem_append.2 ⟨hstems stem hstem, hx⟩ ' ' hmem
      exact absurd hfalse (by decide)
    obtain ⟨rest, hrest⟩ : ∃ rest, tail = rest ++ (second ++ r) := by
      rw [hsplit, ← List.append_assoc stem.toList, ← List.append_assoc l, List.append_assoc,
        List.cons_append] at hlr
      rcases List.append_eq_append_iff.1 hlr with ⟨bs, hbs, hcons⟩ | ⟨as, -, rfl⟩
      · cases bs with
        | nil => exact ⟨[' '], hcons.symm⟩
        | cons c bs =>
          obtain ⟨rfl, -⟩ := List.cons_eq_cons.1 hcons
          exact absurd (by rw [hbs]; simp) hblank
      · exact ⟨as ++ [' '], by simp⟩
    refine hsecond mark hmark ?_
    rw [← htail, hrest]
    exact List.IsInfix.filter _ ⟨rest, r, List.append_assoc ..⟩
  rw [Text.replaceAll_append hne hbefore, Text.replaceAll_eq_self hwithin]
  exact ⟨_, stem, hstem, x, tail, hx, ⟨mark, hmark, htail⟩, rfl⟩

theorem SoleNumber.without (h : SoleNumber s a n b)
    (hphrases : ∀ phrase ∈ phrases, phrase ∈ Vocabulary.dateBounds) :
    SoleNumber (without phrases s) (without phrases a) n (without phrases b) := by
  induction phrases generalizing s a b with
  | nil => exact h
  | cons phrase phrases ih =>
    exact ih (h.replaceAll (hphrases phrase List.mem_cons_self))
      fun p hp => hphrases p (List.mem_cons_of_mem phrase hp)

theorem BelongsToProject.without (h : BelongsToProject a)
    (hphrases : ∀ phrase ∈ phrases, phrase ∈ Vocabulary.dateBounds) :
    BelongsToProject (without phrases a) := by
  induction phrases generalizing a with
  | nil => exact h
  | cons phrase phrases ih =>
    exact ih (h.replaceAll (hphrases phrase List.mem_cons_self))
      fun p hp => hphrases p (List.mem_cons_of_mem phrase hp)

end DateBounds

section Filters

/-- Where a number starts behind words for a year or an amount, the run of digits starts. -/
theorem SoleNumber.eq_before_of_endsInWord (h : SoleNumber s a n b) {front num rest : List Char}
    (hs : s = front ++ (num ++ rest)) (hfront : EndsInWord openers front)
    (hnum : ∃ x ds, num = x :: ds ∧ Text.isDigit x = true) : front = a := by
  obtain ⟨x, ds, rfl, hx⟩ := hnum
  exact h.eq_before hs hx hfront.isDigit_getLast

theorem IsYear.exists_cons {num : List Char} (h : IsYear num) :
    ∃ x ds, num = x :: ds ∧ Text.isDigit x = true := by
  have hcenturies : ∀ t ∈ ["19", "20"], ∃ x ∈ t.toList.head?, Text.isDigit x = true := by decide
  obtain ⟨century, hcentury, rest, rfl, -⟩ := h
  obtain ⟨x, hx, hdigit⟩ := hcenturies century hcentury
  obtain ⟨ds, hds⟩ := List.head?_eq_some_iff.1 hx
  exact ⟨x, ds ++ rest, by rw [hds, List.cons_append], hdigit⟩

theorem IsAmount.exists_cons {num : List Char} (h : IsAmount num) :
    ∃ x ds, num = x :: ds ∧ Text.isDigit x = true := by
  obtain ⟨_, places, rfl, ⟨first, rest, rfl, hfirst, -⟩, -⟩ := h
  exact ⟨first, rest ++ places, rfl, hfirst⟩

theorem SoleNumber.belongsToProject (h : SoleNumber q.folded a n b) (hsome : project? q d ≠ none) :
    BelongsToProject a := by
  obtain ⟨e, he⟩ := Option.ne_none_iff_exists'.1 hsome
  obtain ⟨text, htext, -⟩ := Option.map_eq_some_iff.1 he
  obtain ⟨c, hc, -⟩ := List.mem_map.1 (List.mem_of_find?_eq_some htext)
  obtain ⟨front, opening, num, ending, rest, hs, hopening, ⟨x, ds, rfl, hx, -⟩, -⟩ :=
    readsNumber_projectNumber.of_mem_numbers hc
  have hplace : q.folded = (front ++ opening) ++ x :: (ds ++ (ending ++ rest)) := by
    rw [hs, List.append_assoc, List.cons_append]
  obtain ⟨digits, hfront, hdigits⟩ := h.exists_append hplace hx
  have hproject := hopening.belongsToProject
  rw [hfront] at hproject
  exact hproject.of_append hdigits

/-- A year is read from the run, unless the run is the number of a comparison. -/
theorem SoleNumber.year_start (h : SoleNumber q.folded a n b) (hsome : year? q d ≠ none) :
    EndsInWord openers a ∧ a.length ∉ (numbers amountBound q.folded).map (·.start) := by
  obtain ⟨e, he⟩ := Option.ne_none_iff_exists'.1 hsome
  obtain ⟨c, hc, -⟩ := Option.bind_eq_some_iff.1 he
  obtain ⟨front, opening, num, ending, rest, hs, hopening, hnum, -, hcapture⟩ :=
    readsNumber_yearNumber.of_mem_numbers (List.mem_of_find?_eq_some hc)
  have hword := hopening.endsInWord
  have hfront := h.eq_before_of_endsInWord (by rw [hs, List.append_assoc]) hword hnum.exists_cons
  rw [hfront] at hword hcapture
  refine ⟨hword, ?_⟩
  simpa [hcapture] using List.find?_some hc

/-- A comparison has the run as its number. -/
theorem SoleNumber.amount_start (h : SoleNumber s a n b) {m : PatternMatch Part}
    (hm : amountBound.find? s = some m) :
    EndsInWord openers a ∧ a.length ∈ (numbers amountBound s).map (·.start) := by
  obtain ⟨front, opening, num, ending, rest, hs, hopening, hnum, -, -, -, hcapture⟩ :=
    readsNumber_amountBound.of_isMatch (isMatch_of_find? hm)
  have hword := hopening.endsInWord
  have hfront := h.eq_before_of_endsInWord (by rw [hs, List.append_assoc]) hword hnum.exists_cons
  rw [hfront] at hword hcapture
  exact ⟨hword, List.mem_map.2
    ⟨_, mem_numbers_iff.2 ⟨m, mem_allMatches_of_find? hm, hcapture⟩, rfl⟩⟩

theorem find?_without_of_amount? (hsome : amount? q d ≠ none) :
    ∃ m, amountBound.find? (without Vocabulary.dateBounds q.folded) = some m := by
  obtain ⟨e, he⟩ := Option.ne_none_iff_exists'.1 hsome
  obtain ⟨field, -, he⟩ := Option.bind_eq_some_iff.1 he
  obtain ⟨m, hm, -⟩ := Option.bind_eq_some_iff.1 he
  exact ⟨m, hm⟩

/-- The only number of a question makes at most one filter, but for a year and an amount together
when the question has no comparison until the date bounds are taken out. -/
theorem SoleNumber.exclusive (h : SoleNumber q.folded a n b) :
    (project? q d = none ∨ year? q d = none) ∧ (project? q d = none ∨ amount? q d = none) ∧
      (year? q d = none ∨ amount? q d = none ∨ amountBound.find? q.folded = none) := by
  refine ⟨?_, ?_, ?_⟩
  · by_contra! hboth
    exact (h.belongsToProject hboth.1).not_endsInWord (h.year_start hboth.2).1
  · by_contra! hboth
    obtain ⟨m, hm⟩ := find?_without_of_amount? hboth.2
    have hwithout := h.without (fun _ hp => hp : ∀ p ∈ Vocabulary.dateBounds, p ∈ _)
    exact ((h.belongsToProject hboth.1).without fun _ hp => hp).not_endsInWord
      (hwithout.amount_start hm).1
  · by_contra! hall
    obtain ⟨m, hm⟩ := Option.ne_none_iff_exists'.1 hall.2.2
    exact (h.year_start hall.1).2 (h.amount_start hm).2

theorem SoleNumber.exclusive_permissions :
    (project? (.ofText "הרשאות מעל 2024 ש״ח") Registry.permissions = none ∨
        year? (.ofText "הרשאות מעל 2024 ש״ח") Registry.permissions = none) ∧
      (project? (.ofText "הרשאות מעל 2024 ש״ח") Registry.permissions = none ∨
        amount? (.ofText "הרשאות מעל 2024 ש״ח") Registry.permissions = none) ∧
      (year? (.ofText "הרשאות מעל 2024 ש״ח") Registry.permissions = none ∨
        amount? (.ofText "הרשאות מעל 2024 ש״ח") Registry.permissions = none ∨
        amountBound.find? (Question.ofText "הרשאות מעל 2024 ש״ח").folded = none) :=
  SoleNumber.exclusive (a := "הרשאות מעל ".toList) (n := "2024".toList) (b := " שח".toList)
    ⟨by decide, by decide, by decide, by decide, by decide⟩

/-- A date bound that is taken out leaves a comparison with the year that it bounds. -/
theorem year?_and_amount?_dateBound :
    SoleNumber (Question.ofText "הרשאות לפחות עד שנת 2024").folded "הרשאות לפחות עד שנת ".toList
        "2024".toList [] ∧
      (year? (.ofText "הרשאות לפחות עד שנת 2024") Registry.permissions).isSome ∧
      (amount? (.ofText "הרשאות לפחות עד שנת 2024") Registry.permissions).isSome :=
  ⟨⟨by decide, by decide, by decide, by decide, by decide⟩, by decide,
    by decide⟩

end Filters

end CivicReport.Extraction
