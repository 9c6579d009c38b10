import CivicReport.Proofs.Pattern.Following
import CivicReport.Proofs.Question.Findings
import CivicReport.Proofs.Question.Folding
import CivicReport.Proofs.Question.Years
import CivicReport.Proofs.Text.Replacing
import Mathlib.Data.List.Find

/-!
Punctuation behind a question. A number may take some of it, and loses it again before it is read;
a term never ends in it. Main statements: blanks, commas and full stops behind a question change
nothing that the rules find, but for the rule for years, which does not bear a comma right behind
the question.
-/
namespace CivicReport.Extraction

open Pattern

variable {q q' : Question} {d : Domain} {s t a r : List Char}

/-- Blanks, commas and full stops only. -/
def IsPunctuation (t : List Char) : Prop := ∀ c ∈ t, c ∈ [' ', ',', '.']

theorem IsPunctuation.isDigit (ht : IsPunctuation t) : ∀ c ∈ t, Text.isDigit c = false := by
  have hall : ∀ c ∈ [' ', ',', '.'], Text.isDigit c = false := by decide
  exact fun c hc => hall c (ht c hc)

theorem IsPunctuation.isWordChar (ht : IsPunctuation t) :
    ∀ c ∈ t.head?, Text.isWordChar c = false := by
  have hall : ∀ c ∈ [' ', ',', '.'], Text.isWordChar c = false := by decide
  exact fun c hc => hall c (ht c (List.mem_of_head? hc))

/-- Captures are the same, but for commas and full stops behind a number. -/
def Trails (c' c : Capture Part) : Prop :=
  c' = c ∨ c.label = .number ∧ ∃ e, (∀ x ∈ e, Question.isDigitSeparator x = true) ∧
    c' = { c with text := c.text ++ e }

section Numbers

theorem endsIn_digits {least : Nat} {most : Option Nat} (hleast : 0 < least) :
    EndsIn Text.isDigit (digits least most : Pattern Part) := by
  rintro a w b caps ⟨hall, ⟨hle, -⟩, -⟩
  have hne : w ≠ [] := List.ne_nil_of_length_pos (by omega)
  exact ⟨w.getLast hne, List.getLast?_eq_some_getLast hne, hall _ (List.getLast_mem hne)⟩

/-- What a number takes from the punctuation behind it is no blank. -/
theorem trails_of_mem_readings {p : Pattern Part} (hp : ∀ a w b caps, p.Takes a w b caps → ' ' ∉ w)
    (ht : IsPunctuation t) {o' o : List Char × List (Capture Part)}
    (ho' : o' ∈ p.readings a (r ++ t)) (htext : o'.1 = o.1 ∨ o.1 = r ∧ r.length ≤ o'.1.length) :
    Trails ⟨.number, a.length, o'.1⟩ ⟨.number, a.length, o.1⟩ := by
  rcases htext with heq | ⟨hall, hle⟩
  · exact .inl (by rw [heq])
  · obtain ⟨b, hb, htakes⟩ := mem_readings_iff.1 ho'
    obtain ⟨e, he⟩ : r <+: o'.1 :=
      List.prefix_of_prefix_length_le (List.prefix_append ..) ⟨b, hb.symm⟩ hle
    refine .inr ⟨rfl, e, fun x hx => ?_, by rw [hall, he]⟩
    have hmem : x ∈ t := by
      rw [← he, List.append_assoc, List.append_cancel_left_eq] at hb
      rw [hb]
      exact List.mem_append_left b hx
    have hblank : x ≠ ' ' := by
      rintro rfl
      exact hp _ _ _ _ htakes (he ▸ List.mem_append_right r hx)
    have hmarks : ∀ c ∈ [' ', ',', '.'], c ≠ ' ' → Question.isDigitSeparator c = true := by decide
    exact hmarks x (ht x hmem) hblank

theorem IsGrouped.blank_notMem {num : List Char} (h : IsGrouped num) : ' ' ∉ num := by
  obtain ⟨first, rest, rfl, hfirst, hrest⟩ := h
  rintro (_ | ⟨_, hmem⟩)
  · exact absurd hfirst (by decide)
  · exact absurd (hrest ' ' hmem) (by decide)

theorem IsAmount.blank_notMem {num : List Char} (h : IsAmount num) : ' ' ∉ num := by
  obtain ⟨_, places, rfl, hgrouped, hplaces⟩ := h
  intro hmem
  rcases List.mem_append.1 hmem with hmem | hmem
  · exact hgrouped.blank_notMem hmem
  · rcases hplaces with rfl | ⟨ds, rfl, hds⟩
    · exact absurd hmem List.not_mem_nil
    · rcases List.mem_append.1 hmem with hpoint | hdigit
      · exact absurd hpoint (by decide)
      · exact absurd (hds ' ' hdigit) (by decide)

/-- What stands before the digits of a project. -/
def projectOpening : List (Pattern Part) :=
  [anyText projectWords, nonBlanks, blanks, numberMark, maybe (text "#")]

def projectDigits : Pattern Part :=
  group .number (seq (digits 1 (some 1)) (run isDigitOrComma 0 none))

theorem projectNumber_eq : projectNumber = chain (projectOpening ++ [projectDigits]) := rfl

theorem needs_projectDigits : Needs Text.isDigit projectDigits :=
  (endsIn_digits Nat.one_pos).needs.seq_left.group

theorem alikeBefore_projectNumber (ht : IsPunctuation t) (a r : List Char) :
    AlikeBefore Trails t projectNumber a r := by
  rw [projectNumber_eq]
  refine AlikeBefore.chain (by decide) ht.isWordChar (fun _ => .inl rfl) needs_projectDigits
    ht.isDigit fun a r => ?_
  refine AlikeBefore.group ?_ fun o' ho' o _ htext => trails_of_mem_readings ?_ ht ho' htext
  · exact AlikeBefore.seq_of_endsIn (endsIn_digits Nat.one_pos) rfl ht.isWordChar ht.isDigit
      (fun _ => .inl rfl) fun a r => AlikeBefore.run
  · exact fun a w b caps htakes => (takes_groupedDigits_iff.1 htakes).1.blank_notMem

theorem exists_unit_of_takes {w b : List Char} {caps : List (Capture Part)}
    (h : unitWords.Takes a w b caps) : ∃ unit ∈ unitNames ++ unitLetters, w = unit.toList := by
  obtain ⟨p, hp, htakes⟩ := takes_oneOf_iff.1 h
  rcases List.mem_append.1 hp with hp | hp
  · obtain ⟨unit, hunit, rfl⟩ := List.mem_map.1 hp
    exact ⟨unit, List.mem_append_left _ hunit, (takes_text_iff.1 htakes).1⟩
  · obtain ⟨unit, hunit, rfl⟩ := List.mem_map.1 hp
    obtain ⟨_, _, _, _, rfl, -, htext, -, rfl, -⟩ := htakes
    refine ⟨unit, List.mem_append_right _ hunit, ?_⟩
    rw [List.append_nil]
    exact (takes_text_iff.1 htext).1

/-- A letter is what cannot be punctuation. -/
def isNoPunctuation (c : Char) : Bool := !([' ', ',', '.'].contains c)

theorem endsIn_unitWords : EndsIn isNoPunctuation (seq blanks (group .unit unitWords)) := by
  have hunits : ∀ unit ∈ unitNames ++ unitLetters, ∃ x ∈ unit.toList.getLast?, isNoPunctuation x = true := by decide
  refine EndsIn.seq (EndsIn.group fun a w b caps htakes => ?_)
  obtain ⟨unit, hunit, rfl⟩ := exists_unit_of_takes htakes
  exact hunits unit hunit

theorem IsPunctuation.isNoPunctuation (ht : IsPunctuation t) :
    ∀ c ∈ t, isNoPunctuation c = false := by
  have hall : ∀ c ∈ [' ', ',', '.'], Extraction.isNoPunctuation c = false := by decide
  exact fun c hc => hall c (ht c hc)

/-- What stands before the number of a comparison. -/
def amountOpening : List (Pattern Part) :=
  [afterBlank, either (group .above aboveWords) (group .below belowWords), blanks,
    maybe (anyText amountLetters), blanks]

def amountDigits : Pattern Part :=
  group .number (chain [digits 1 (some 1), run isDigitOrComma 0 none,
    maybe (seq (text ".") (digits 1 none))])

theorem amountBound_eq : amountBound = chain (amountOpening ++
    [seq amountDigits (maybe (seq blanks (group .unit unitWords)))]) := rfl

theorem needs_amountDigits : Needs Text.isDigit amountDigits :=
  (endsIn_digits Nat.one_pos).needs.seq_left.group

theorem alikeBefore_amountDigits (ht : IsPunctuation t) (a r : List Char) :
    AlikeBefore Trails t amountDigits a r := by
  have hplaces (a r : List Char) :
      AlikeBefore Trails t (seq (text ".") (digits 1 none)) a r := by
    refine AlikeBefore.of_readings_eq (fun _ => .inl rfl) ?_
    exact (endsIn_digits Nat.one_pos).seq.readings_eq rfl ht.isWordChar ht.isDigit
  refine AlikeBefore.group ?_ fun o' ho' o _ htext => trails_of_mem_readings ?_ ht ho' htext
  · refine AlikeBefore.seq_of_endsIn (endsIn_digits Nat.one_pos) rfl ht.isWordChar ht.isDigit
      (fun _ => .inl rfl) fun a r => ?_
    exact AlikeBefore.seq_maybe AlikeBefore.run hplaces (endsIn_digits Nat.one_pos).seq.needs
      ht.isDigit
  · exact fun a w b caps htakes => (takes_amountNumber htakes).1.blank_notMem

theorem alikeBefore_amountBound (ht : IsPunctuation t) (a r : List Char) :
    AlikeBefore Trails t amountBound a r := by
  rw [amountBound_eq]
  refine AlikeBefore.chain (by decide) ht.isWordChar (fun _ => .inl rfl)
    needs_amountDigits.seq_left ht.isDigit fun a r => ?_
  refine AlikeBefore.seq_maybe (alikeBefore_amountDigits ht a r) (fun a r => ?_)
    endsIn_unitWords.needs ht.isNoPunctuation
  refine AlikeBefore.of_readings_eq (fun _ => .inl rfl) ?_
  exact endsIn_unitWords.readings_eq rfl ht.isWordChar ht.isNoPunctuation

/-- What stands before the digits of an order. -/
def orderOpening : List (Pattern Part) :=
  [anyText orderWords, nonBlanks, blanks, maybe (seq (text "רכש") blanks), numberMark,
    maybe (text "#"), blanks]

def orderDigits : Pattern Part := group .number (digits 4 (some 10))

theorem orderNumber_eq : orderNumber = chain (orderOpening ++
    [seq orderDigits (either (.class (!Text.isDigit ·)) finish)]) := rfl

theorem endsIn_orderDigits : EndsIn Text.isDigit orderDigits :=
  (endsIn_digits (by decide)).group

/-- At the end of the text there is the end, and before what follows a character of it. -/
theorem alikeBefore_ending {test : Char → Bool} (htest : ∀ c ∈ t.head?, test c = false)
    (a r : List Char) : AlikeBefore Eq t (either (.class (!test ·)) finish : Pattern Part) a r := by
  cases r with
  | cons x r => exact AlikeBefore.of_readings_eq (fun _ => rfl) rfl
  | nil =>
    cases t with
    | nil => exact AlikeBefore.of_readings_eq (fun _ => rfl) rfl
    | cons x t =>
      have hx := htest x rfl
      simp only [AlikeBefore, readings, List.nil_append, List.head?_cons, Option.filter_some, hx]
      exact .some ⟨.nil, .inr ⟨rfl, Nat.zero_le _⟩⟩

theorem alikeBefore_orderNumber (ht : IsPunctuation t) (a r : List Char) :
    AlikeBefore Eq t orderNumber a r := by
  rw [orderNumber_eq]
  refine AlikeBefore.chain (by decide) ht.isWordChar (fun _ => rfl)
    endsIn_orderDigits.needs.seq_left ht.isDigit fun a r => ?_
  exact AlikeBefore.seq_of_endsIn endsIn_orderDigits rfl ht.isWordChar ht.isDigit
    (fun _ => rfl) (alikeBefore_ending fun c hc => ht.isDigit c (List.mem_of_head? hc))

/-- What stands before the digits of a year. -/
def yearOpening : List (Pattern Part) :=
  [afterBlank, anyText yearWords, blanks]

def yearDigits : Pattern Part := group .number (seq (anyText centuries) (digits 2 (some 2)))

theorem yearNumber_eq : yearNumber = chain (yearOpening ++
    [seq yearDigits (either (.class (!isDigitOrComma ·)) finish)]) := rfl

theorem endsIn_yearDigits : EndsIn Text.isDigit yearDigits :=
  (endsIn_digits (by decide)).seq.group

theorem alikeBefore_yearNumber (ht : IsPunctuation t)
    (hhead : ∀ c ∈ t.head?, isDigitOrComma c = false) (a r : List Char) :
    AlikeBefore Eq t yearNumber a r := by
  rw [yearNumber_eq]
  refine AlikeBefore.chain (by decide) ht.isWordChar (fun _ => rfl)
    endsIn_yearDigits.needs.seq_left ht.isDigit fun a r => ?_
  exact AlikeBefore.seq_of_endsIn endsIn_yearDigits rfl ht.isWordChar ht.isDigit
    (fun _ => rfl) (alikeBefore_ending hhead)

end Numbers

section Terms

variable {term by_ : List Char}

/-- A term ends in something else than punctuation. -/
def EndsPlain (term : List Char) : Prop := ∃ c ∈ term.getLast?, isNoPunctuation c = true

theorem endsPlain_of_mem_terms {term : String} (h : term ∈ Folding.terms) :
    EndsPlain (Folding.foldText term) := by
  have hall : ∀ term ∈ Folding.terms,
      ∃ c ∈ (Folding.letters term).getLast?, isNoPunctuation c = true := by
    decide
  rw [EndsPlain, Folding.foldText_of_mem_terms h]
  exact hall term h

theorem EndsPlain.ne_nil (h : EndsPlain term) : term ≠ [] := by
  obtain ⟨c, hc, -⟩ := h
  rintro rfl
  contradiction

theorem EndsPlain.not_suffix (h : EndsPlain term) (ht : IsPunctuation t) {u : List Char}
    (hsuffix : u <:+ term) (hu : u ≠ []) : ¬ ∀ c ∈ u, c ∈ t := by
  intro hall
  obtain ⟨c, hc, hplain⟩ := h
  obtain ⟨front, rfl⟩ := hsuffix
  rw [List.getLast?_append_of_ne_nil _ hu] at hc
  rw [ht.isNoPunctuation c (hall c (List.mem_of_getLast? hc))] at hplain
  contradiction

theorem EndsPlain.not_straddles (h : EndsPlain term) (ht : IsPunctuation t) :
    ¬ Text.Straddles term s t := by
  rintro ⟨t₁, t₂, -, hne, rfl, -, hbegins⟩
  exact h.not_suffix ht (List.suffix_append ..) hne fun c hc => hbegins.mem hc

theorem EndsPlain.not_contained (h : EndsPlain term) (ht : IsPunctuation t) : ¬ term <:+: t :=
  fun hcontains => h.not_suffix ht (List.suffix_refl _) h.ne_nil fun _ hc => hcontains.mem hc

theorem EndsPlain.occursIn_append (h : EndsPlain term) (ht : IsPunctuation t) :
    Text.occursIn term (s ++ t) = Text.occursIn term s := by
  rw [Bool.eq_iff_iff, Text.occursIn_iff, Text.occursIn_iff, List.infix_append_iff]
  refine ⟨?_, .inl⟩
  rintro (hs | ht' | ⟨t₁, t₂, rfl, hsuffix, hbegins⟩)
  · exact hs
  · exact absurd ht' (h.not_contained ht)
  · by_cases hne : t₂ = []
    · rw [hne, List.append_nil]
      exact hsuffix.isInfix
    · exact absurd (fun c hc => hbegins.mem hc) (h.not_suffix ht (List.suffix_append ..) hne)

theorem EndsPlain.replaceAll_append (h : EndsPlain term) (ht : IsPunctuation t) :
    Text.replaceAll term by_ (s ++ t) = Text.replaceAll term by_ s ++ t := by
  rw [Text.replaceAll_append h.ne_nil (h.not_straddles ht),
    Text.replaceAll_eq_self (h.not_contained ht)]

theorem without_append {phrases : List String} (ht : IsPunctuation t)
    (hphrases : ∀ phrase ∈ phrases, phrase ∈ Folding.terms) :
    without phrases (s ++ t) = without phrases s ++ t := by
  induction phrases generalizing s with
  | nil => rfl
  | cons phrase phrases ih =>
    rw [without, List.foldl_cons,
      (endsPlain_of_mem_terms (hphrases phrase List.mem_cons_self)).replaceAll_append ht]
    exact ih fun p hp => hphrases p (List.mem_cons_of_mem _ hp)

theorem lookup?_append {table : List Vocabulary.Entry} (ht : IsPunctuation t)
    (htable : ∀ e ∈ table, ∀ v ∈ e.variants, v ∈ Folding.terms) :
    Vocabulary.lookup? table (s ++ t) = Vocabulary.lookup? table s := by
  refine congrArg (Option.map Vocabulary.Entry.name) (List.find?_congr fun e he => ?_)
  rw [Bool.eq_iff_iff, List.any_eq_true, List.any_eq_true]
  refine exists_congr fun v => and_congr_right fun hv => ?_
  rw [(endsPlain_of_mem_terms (htable e he v hv)).occursIn_append ht]

theorem statusIn?_append_punctuation {field : Field} {phrases : List Vocabulary.Phrase}
    (ht : IsPunctuation t) (hphrases : ∀ phrase ∈ phrases, phrase.text ∈ Folding.terms) :
    statusIn? field phrases (s ++ t) = statusIn? field phrases s := by
  induction phrases generalizing s with
  | nil => rfl
  | cons phrase phrases ih =>
    have hplain := endsPlain_of_mem_terms (hphrases phrase List.mem_cons_self)
    have hrest : ∀ p ∈ phrases, p.text ∈ Folding.terms :=
      fun p hp => hphrases p (List.mem_cons_of_mem _ hp)
    rw [statusIn?, statusIn?, hplain.occursIn_append ht, hplain.replaceAll_append ht, ih hrest,
      ih hrest]

end Terms

section Captures

variable {p : Pattern Part} {m m' : PatternMatch Part} {c c' : Capture Part} {n : Nat}

theorem Trails.eq_of_ne (h : Trails c' c) (hc : c.label ≠ .number) : c' = c :=
  h.resolve_right fun hnumber => hc hnumber.1

theorem Trails.start_eq (h : Trails c' c) : c'.start = c.start := by
  rcases h with rfl | ⟨-, e, -, rfl⟩ <;> rfl

theorem Trails.withoutEndMarks_eq (h : Trails c' c) :
    withoutEndMarks c'.text = withoutEndMarks c.text := by
  rcases h with rfl | ⟨-, e, he, rfl⟩
  · rfl
  · rw [withoutEndMarks, withoutEndMarks, Text.stripRight, Text.stripRight, List.reverse_append,
      List.dropWhile_append_of_pos fun x hx => he x (List.mem_reverse.1 hx)]

theorem rel_capture? (h : List.Forall₂ Trails m'.captures m.captures) (label : Part) :
    Option.Rel Trails (m'.capture? label) (m.capture? label) := by
  rw [PatternMatch.capture?, PatternMatch.capture?]
  generalize m'.captures = l' at h
  generalize m.captures = l at h
  induction h with
  | nil => exact .none
  | @cons c' c l' l hc _ ih =>
    have hlabel : c'.label = c.label := by
      rcases hc with rfl | ⟨-, e, -, rfl⟩ <;> rfl
    rw [List.find?_cons, List.find?_cons, hlabel]
    split
    · exact .some hc
    · exact ih

theorem map_eq_of_forall₂ {α β γ : Type} {R : α → β → Prop} {f : α → γ} {g : β → γ} {l' : List α}
    {l : List β} (h : List.Forall₂ R l' l) (hfg : ∀ x y, R x y → f x = g y) :
    l'.map f = l.map g := by
  have hmap : List.Forall₂ (· = ·) (l'.map f) (l.map g) := List.rel_map (fun _ _ h => hfg _ _ h) h
  rwa [List.forall₂_eq_eq_eq] at hmap

theorem numbers_append (h : List.Forall₂ (MatchFollows Trails n) (p.allMatches (s ++ t))
    (p.allMatches s)) : List.Forall₂ Trails (numbers p (s ++ t)) (numbers p s) :=
  List.rel_filterMap (fun _ _ hm => rel_capture? hm.2.1 .number) h

theorem find?_append {R : PatternMatch Part → PatternMatch Part → Prop}
    (h : List.Forall₂ R (p.allMatches (s ++ t)) (p.allMatches s)) :
    Option.Rel R (p.find? (s ++ t)) (p.find? s) := by
  rw [← head?_allMatches, ← head?_allMatches]
  generalize p.allMatches (s ++ t) = l' at h
  generalize p.allMatches s = l at h
  cases h with
  | nil => exact .none
  | cons hm _ => exact .some hm

end Captures

section Rules

variable (hq : q'.folded = q.folded ++ t) (ht : IsPunctuation t)

include hq ht

theorem department?_append : department? q' d = department? q d := by
  rw [department?, department?, hq, lookup?_append ht, lookup?_append ht]
  · intro e he v hv
    simp only [Folding.terms, List.mem_append, List.mem_flatMap]
    exact .inl (.inl (.inl ⟨e, .inl he, hv⟩))
  · intro e he v hv
    simp only [Folding.terms, List.mem_append, List.mem_flatMap]
    exact .inl (.inl (.inl ⟨e, .inr he, hv⟩))

theorem status?_append : status? q' d = status? q d := by
  rw [status?, status?, hq, without_append ht fun p hp => by simp [Folding.terms, hp]]
  refine congrArg _ (funext fun field => ?_)
  rw [statusIn?_append_punctuation ht]
  intro phrase hphrase
  simp [Folding.terms, List.mem_map_of_mem, hphrase]

theorem transactionType?_append : transactionType? q' d = transactionType? q d := by
  refine congrArg _ (funext fun field => congrArg _ (List.find?_congr fun phrase hphrase => ?_))
  have hterm : phrase.text ∈ Folding.terms := by
    simp [Folding.terms, List.mem_map_of_mem, hphrase]
  rw [Question.contains, Question.contains, hq, (endsPlain_of_mem_terms hterm).occursIn_append ht]

theorem project?_append : project? q' d = project? q d := by
  have hnumbers : List.Forall₂ Trails (numbers projectNumber (q.folded ++ t))
      (numbers projectNumber q.folded) :=
    numbers_append (AlikeBefore.forall₂_allMatches (alikeBefore_projectNumber ht)
      (projectNumber_eq ▸ needs_projectDigits.chain) ht.isDigit)
  have hcandidates : ((numbers projectNumber q'.folded).map fun c => withoutEndMarks c.text) =
      (numbers projectNumber q.folded).map fun c => withoutEndMarks c.text := by
    rw [hq]
    exact map_eq_of_forall₂ hnumbers fun _ _ h => h.withoutEndMarks_eq
  unfold project?
  rw [hcandidates]

theorem amountStarts_append : amountStarts q'.folded = amountStarts q.folded := by
  rw [amountStarts, amountStarts, hq]
  have hnumbers : List.Forall₂ Trails (numbers amountBound (q.folded ++ t))
      (numbers amountBound q.folded) :=
    numbers_append (AlikeBefore.forall₂_allMatches (alikeBefore_amountBound ht)
      (amountBound_eq ▸ needs_amountDigits.seq_left.chain) ht.isDigit)
  exact map_eq_of_forall₂ hnumbers fun _ _ h => h.start_eq

/-- What neither a digit nor a comma follows is read as the same year. -/
theorem year?_append (hhead : ∀ c ∈ t.head?, isDigitOrComma c = false) :
    year? q' d = year? q d := by
  have hmatches := AlikeBefore.forall₂_allMatches (s := q.folded) (alikeBefore_yearNumber ht hhead)
    (yearNumber_eq ▸ endsIn_yearDigits.needs.seq_left.chain) ht.isDigit
  have hnumbers : numbers yearNumber q'.folded = numbers yearNumber q.folded := by
    have hcaptures : ((yearNumber.allMatches (q.folded ++ t)).map (·.captures)) =
        (yearNumber.allMatches q.folded).map (·.captures) :=
      map_eq_of_forall₂ hmatches fun _ _ hm => by simpa only [List.forall₂_eq_eq_eq] using hm.2.1
    have hnumbers (s : List Char) : numbers yearNumber s = ((yearNumber.allMatches s).map
        (·.captures)).filterMap (List.find? (·.label == .number)) := List.filterMap_map.symm
    rw [hq, hnumbers, hcaptures, ← hnumbers]
  rw [year?_eq, year?_eq, yearCapture?, yearCapture?, hnumbers, amountStarts_append hq ht]

theorem order?_append : order? q' d = order? q d := by
  have hfound := find?_append (AlikeBefore.forall₂_allMatches (s := q.folded)
    (alikeBefore_orderNumber ht) (orderNumber_eq ▸ endsIn_orderDigits.needs.seq_left.chain)
    ht.isDigit)
  rw [order?, order?, hq]
  rcases cases_of_rel hfound with ⟨h', h⟩ | ⟨m', m, h', h, -, hcaptures, -⟩
  · rw [h', h]
  · rw [List.forall₂_eq_eq_eq] at hcaptures
    rw [h', h, Option.bind_some, Option.bind_some, PatternMatch.capture?, hcaptures]
    rfl

theorem amount?_append : amount? q' d = amount? q d := by
  have hwithout : without Vocabulary.dateBounds q'.folded =
      without Vocabulary.dateBounds q.folded ++ t := by
    rw [hq, without_append ht fun p hp => by simp [Folding.terms, hp]]
  have hfound := find?_append (AlikeBefore.forall₂_allMatches
    (s := without Vocabulary.dateBounds q.folded) (alikeBefore_amountBound ht)
    (amountBound_eq ▸ needs_amountDigits.seq_left.chain) ht.isDigit)
  unfold amount?
  rw [hwithout]
  refine congrArg _ (funext fun field => ?_)
  rcases cases_of_rel hfound with ⟨h', h⟩ | ⟨m', m, h', h, -, hcaptures, -⟩
  · rw [h', h]
  · have hsame {label : Part} (hlabel : label ≠ .number) :
        m'.capture? label = m.capture? label := by
      rcases cases_of_rel (rel_capture? hcaptures label) with ⟨hc', hc⟩ | ⟨c', c, hc', hc, hrel⟩
      · rw [hc', hc]
      · have hfoundLabel : c.label = label := by simpa using List.find?_some hc
        rw [hc', hc, hrel.eq_of_ne (hfoundLabel ▸ hlabel)]
    rw [h', h, Option.bind_some, Option.bind_some]
    rcases cases_of_rel (rel_capture? hcaptures .number) with ⟨hc', hc⟩ | ⟨c', c, hc', hc, hrel⟩
    · rw [hc', hc]
      rfl
    · rw [hc', hc, Option.bind_some, Option.bind_some, hrel.withoutEndMarks_eq, directionSuffix,
        directionSuffix, hsame (by decide), hsame (by decide)]

end Rules

end CivicReport.Extraction
