import CivicReport.Question.Extraction
import CivicReport.Proofs.Pattern.Search
import CivicReport.Proofs.Text.Classes

/-!
The numbers that the rules read, and the texts around them. Each pattern takes an opening, a number
and an ending, and captures the number. Main statements: what the openings and numbers of projects,
years and amounts look like, wherever such a pattern matches.
-/
namespace CivicReport.Extraction

open Pattern

section Blocks

variable {a w b : List Char} {caps : List (Capture Part)}

theorem takes_blanks_iff : (blanks : Pattern Part).Takes a w b caps ↔
    (∀ x ∈ w, Text.isBlank x = true) ∧ caps = [] := by
  simp [blanks, Takes, Within]

theorem takes_nonBlanks_iff : (nonBlanks : Pattern Part).Takes a w b caps ↔
    (∀ x ∈ w, Text.isBlank x = false) ∧ caps = [] := by
  simp [nonBlanks, Takes, Within]

/-- Nothing at the start of a text, or one blank. -/
def Opens (a sep : List Char) : Prop :=
  (a = [] ∧ sep = []) ∨ ∃ x, Text.isBlank x = true ∧ sep = [x]

theorem takes_afterBlank_iff : (afterBlank : Pattern Part).Takes a w b caps ↔
    Opens a w ∧ caps = [] := by
  simp only [afterBlank, Takes, Opens]
  grind

/-- One character outside a class, or nothing at the end of a text. -/
def Ends (test : Char → Bool) (ending b : List Char) : Prop :=
  (∃ x, test x = false ∧ ending = [x]) ∨ ending = [] ∧ b = []

theorem takes_ending_iff {test : Char → Bool} :
    (either (.class (!test ·)) finish : Pattern Part).Takes a w b caps ↔
      Ends test w b ∧ caps = [] := by
  simp only [Takes, Ends, Bool.not_eq_true']
  grind

theorem takes_maybe_anyText_iff {words : List String} :
    (maybe (anyText words) : Pattern Part).Takes a w b caps ↔
      (∃ t ∈ "" :: words, w = t.toList) ∧ caps = [] := by
  simp only [Takes, takes_anyText_iff, List.mem_cons, exists_eq_or_imp, String.toList_empty]
  grind

theorem takes_maybe_text_iff {s : String} : (maybe (text s) : Pattern Part).Takes a w b caps ↔
    (∃ t ∈ ["", s], w = t.toList) ∧ caps = [] :=
  @takes_maybe_anyText_iff a w b caps [s]

/-- A digit, and digits and commas after it. -/
def IsGrouped (num : List Char) : Prop :=
  ∃ first rest, num = first :: rest ∧ Text.isDigit first = true ∧
    ∀ x ∈ rest, isDigitOrComma x = true

theorem takes_oneDigit_iff : (digits 1 (some 1) : Pattern Part).Takes a w b caps ↔
    (∃ x, Text.isDigit x = true ∧ w = [x]) ∧ caps = [] := by
  simp only [digits, Takes, Within, Option.mem_some_iff, forall_eq']
  constructor
  · rintro ⟨hall, ⟨hleast, hmost⟩, rfl⟩
    obtain ⟨x, rfl⟩ := List.length_eq_one_iff.1 (Nat.le_antisymm hmost hleast)
    exact ⟨⟨x, hall x List.mem_cons_self, rfl⟩, rfl⟩
  · rintro ⟨⟨x, hx, rfl⟩, rfl⟩
    exact ⟨fun y hy => List.mem_singleton.1 hy ▸ hx, ⟨Nat.le_refl _, Nat.le_refl _⟩, rfl⟩

theorem takes_groupedDigits_iff :
    (seq (digits 1 (some 1)) (run isDigitOrComma 0 none) : Pattern Part).Takes a w b caps ↔
      IsGrouped w ∧ caps = [] := by
  simp only [takes_seq_iff, takes_oneDigit_iff, takes_run_iff]
  constructor
  · rintro ⟨_, rest, _, _, rfl, rfl, ⟨⟨first, hfirst, rfl⟩, rfl⟩, hrest, -, rfl⟩
    exact ⟨⟨first, rest, rfl, hfirst, hrest⟩, rfl⟩
  · rintro ⟨⟨first, rest, rfl, hfirst, hrest⟩, rfl⟩
    exact ⟨[first], rest, [], [], rfl, rfl, ⟨⟨first, hfirst, rfl⟩, rfl⟩, hrest,
      ⟨Nat.zero_le _, by simp⟩, rfl⟩

end Blocks

/-- A pattern takes an opening, a number and an ending, and captures the number. -/
def ReadsNumber (p : Pattern Part) (Opening : List Char → List Char → Prop)
    (Number : List Char → Prop) (Ending : List Char → List Char → Prop) : Prop :=
  ∀ a w b caps, p.Takes a w b caps → ∃ opening num ending, w = opening ++ (num ++ ending) ∧
    Opening a opening ∧ Number num ∧ Ending ending b ∧
    caps.find? (·.label == .number) = some ⟨.number, (a ++ opening).length, num⟩

section Matches

variable {p : Pattern Part} {Opening Ending : List Char → List Char → Prop}
  {Number : List Char → Prop} {s : List Char} {m : PatternMatch Part} {c : Capture Part}

/-- Where in a text a match has found its number. -/
theorem ReadsNumber.of_isMatch (hp : ReadsNumber p Opening Number Ending) (h : p.IsMatch s m) :
    ∃ a opening num ending b, s = a ++ (opening ++ (num ++ (ending ++ b))) ∧ Opening a opening ∧
      Number num ∧ Ending ending b ∧ m.start = a.length ∧
      m.stop = (a ++ (opening ++ (num ++ ending))).length ∧
      m.capture? .number = some ⟨.number, (a ++ opening).length, num⟩ := by
  obtain ⟨a, _, b, rfl, htakes, hstart, hstop⟩ := h
  obtain ⟨opening, num, ending, rfl, hopening, hnum, hending, hcapture⟩ := hp _ _ _ _ htakes
  exact ⟨a, opening, num, ending, b, by simp, hopening, hnum, hending, hstart, hstop, hcapture⟩

theorem mem_numbers_iff :
    c ∈ numbers p s ↔ ∃ m ∈ p.allMatches s, m.capture? .number = some c :=
  List.mem_filterMap

/-- Where in a text a number has been found. -/
theorem ReadsNumber.of_mem_numbers (hp : ReadsNumber p Opening Number Ending)
    (h : c ∈ numbers p s) : ∃ a opening num ending b,
      s = a ++ (opening ++ (num ++ (ending ++ b))) ∧ Opening a opening ∧ Number num ∧
      Ending ending b ∧ c = ⟨.number, (a ++ opening).length, num⟩ := by
  obtain ⟨m, hm, hcapture⟩ := mem_numbers_iff.1 h
  obtain ⟨a, opening, num, ending, b, hs, hopening, hnum, hending, -, -, hfound⟩ :=
    hp.of_isMatch (isMatch_of_mem_allMatches hm)
  rw [hcapture] at hfound
  exact ⟨a, opening, num, ending, b, hs, hopening, hnum, hending, Option.some.inj hfound⟩

end Matches

section Years

/-- The digits of a year: a century and two more. -/
def IsYear (num : List Char) : Prop :=
  ∃ century ∈ centuries, ∃ rest, num = century.toList ++ rest ∧ rest.length = 2 ∧
    ∀ x ∈ rest, Text.isDigit x = true

/-- What stands before a year: a word for a year, and blanks. -/
def OpensYear (a opening : List Char) : Prop :=
  ∃ sep, Opens a sep ∧ ∃ word ∈ yearWords, ∃ bl, (∀ x ∈ bl, Text.isBlank x = true) ∧
    opening = sep ++ (word.toList ++ bl)

theorem takes_yearNumber_iff {a w b : List Char} {caps : List (Capture Part)} :
    yearNumber.Takes a w b caps ↔ ∃ opening num ending, w = opening ++ (num ++ ending) ∧
      OpensYear a opening ∧ IsYear num ∧ Ends isDigitOrComma ending b ∧
      caps = [⟨.number, (a ++ opening).length, num⟩] := by
  simp only [yearNumber, chain_cons_cons, chain_singleton, takes_seq_iff, takes_group_iff,
    takes_afterBlank_iff, takes_anyText_iff, takes_blanks_iff, takes_ending_iff, digits,
    takes_run_iff]
  constructor
  · rintro ⟨sep, _, _, _, rfl, rfl, ⟨hsep, rfl⟩, h⟩
    obtain ⟨_, _, _, _, rfl, rfl, ⟨⟨word, hword, rfl⟩, rfl⟩, h⟩ := h
    obtain ⟨bl, _, _, _, rfl, rfl, ⟨hbl, rfl⟩, h⟩ := h
    obtain ⟨_, ending, _, _, rfl, rfl, ⟨_, rfl, hnum⟩, hending, rfl⟩ := h
    obtain ⟨_, rest, _, _, rfl, rfl, ⟨⟨century, hcentury, rfl⟩, rfl⟩, hrest, hwithin, rfl⟩ := hnum
    obtain ⟨hleast, hmost⟩ := hwithin
    have hlength : rest.length = 2 := Nat.le_antisymm (hmost 2 rfl) hleast
    exact ⟨sep ++ (word.toList ++ bl), century.toList ++ rest, ending, by simp,
      ⟨sep, hsep, word, hword, bl, hbl, rfl⟩, ⟨century, hcentury, rest, rfl, hlength, hrest⟩,
      hending, by simp⟩
  · rintro ⟨_, _, ending, rfl, ⟨sep, hsep, word, hword, bl, hbl, rfl⟩,
      ⟨century, hcentury, rest, rfl, hlength, hrest⟩, hending, rfl⟩
    refine ⟨sep, word.toList ++ (bl ++ (century.toList ++ rest ++ ending)), [], _, by simp, rfl,
      ⟨hsep, rfl⟩, word.toList, bl ++ (century.toList ++ rest ++ ending), [], _, rfl, rfl,
      ⟨⟨word, hword, rfl⟩, rfl⟩, bl, century.toList ++ rest ++ ending, [], _, rfl, rfl, ⟨hbl, rfl⟩,
      century.toList ++ rest, ending, _, [], rfl, (List.append_nil _).symm, ⟨[], by simp, ?_⟩,
      hending, rfl⟩
    exact ⟨century.toList, rest, [], [], rfl, rfl, ⟨⟨century, hcentury, rfl⟩, rfl⟩, hrest,
      ⟨Nat.le_of_eq hlength.symm, fun n hn => Option.some.inj hn ▸ Nat.le_of_eq hlength⟩, rfl⟩

theorem readsNumber_yearNumber :
    ReadsNumber yearNumber OpensYear IsYear (Ends isDigitOrComma) := by
  intro a w b caps h
  obtain ⟨opening, num, ending, rfl, hopening, hnum, hending, rfl⟩ := takes_yearNumber_iff.1 h
  exact ⟨opening, num, ending, rfl, hopening, hnum, hending, rfl⟩

end Years

section Projects

variable {a w b : List Char} {caps : List (Capture Part)}

def numberMarks : List String := ["מס", "מס.", "מספר", "מספר."]

/-- What may stand between a word for a project and its number, apart from what is attached to the
word: the mark of a number with blanks after it, and a number sign. -/
def IsMark (mark : List Char) : Prop :=
  ∃ no, (no = [] ∨ ∃ t ∈ numberMarks, ∃ bl, (∀ x ∈ bl, Text.isBlank x = true) ∧
      no = t.toList ++ bl) ∧ ∃ sign ∈ ["", "#"], mark = no ++ sign.toList

/-- What stands before the number of a project. -/
def OpensProject (_a opening : List Char) : Prop :=
  ∃ word ∈ projectWords, ∃ x bl mark, (∀ c ∈ x, Text.isBlank c = false) ∧
    (∀ c ∈ bl, Text.isBlank c = true) ∧ IsMark mark ∧ opening = word.toList ++ (x ++ (bl ++ mark))

theorem takes_numberMark (h : numberMark.Takes a w b caps) :
    (w = [] ∨ ∃ t ∈ numberMarks, ∃ bl, (∀ x ∈ bl, Text.isBlank x = true) ∧ w = t.toList ++ bl) ∧
      caps = [] := by
  rw [numberMark, takes_maybe_iff] at h
  simp only [chain_cons_cons, chain_singleton, takes_seq_iff, takes_text_iff, takes_maybe_text_iff,
    takes_blanks_iff] at h
  rcases h with ⟨_, _, _, _, rfl, rfl, ⟨rfl, rfl⟩, _, _, _, _, rfl, rfl,
    ⟨⟨middle, hmiddle, rfl⟩, rfl⟩, _, bl, _, _, rfl, rfl, ⟨⟨point, hpoint, rfl⟩, rfl⟩, hbl, rfl⟩ |
    ⟨rfl, rfl⟩
  · have hmarks : ∀ middle ∈ ["", "פר"], ∀ point ∈ ["", "."],
        "מס" ++ (middle ++ point) ∈ numberMarks := by decide
    refine ⟨.inr ⟨_, hmarks middle hmiddle point hpoint, bl, hbl, ?_⟩, rfl⟩
    simp only [String.toList_append, List.append_assoc]
  · exact ⟨.inl rfl, rfl⟩

theorem readsNumber_projectNumber :
    ReadsNumber projectNumber OpensProject IsGrouped fun ending _ => ending = [] := by
  intro a w b caps h
  simp only [projectNumber, chain_cons_cons, chain_singleton, takes_seq_iff, takes_anyText_iff,
    takes_nonBlanks_iff, takes_blanks_iff, takes_maybe_text_iff] at h
  obtain ⟨_, _, _, _, rfl, rfl, ⟨⟨word, hword, rfl⟩, rfl⟩, h⟩ := h
  obtain ⟨x, _, _, _, rfl, rfl, ⟨hx, rfl⟩, h⟩ := h
  obtain ⟨bl, _, _, _, rfl, rfl, ⟨hbl, rfl⟩, h⟩ := h
  obtain ⟨no, _, _, _, rfl, rfl, hno, h⟩ := h
  obtain ⟨hmark, rfl⟩ := takes_numberMark hno
  obtain ⟨_, num, _, _, rfl, rfl, ⟨⟨sign, hsign, rfl⟩, rfl⟩, _, rfl, hdigits⟩ := h
  obtain ⟨hnum, rfl⟩ := takes_groupedDigits_iff.1 hdigits
  exact ⟨word.toList ++ (x ++ (bl ++ (no ++ sign.toList))), num, [], by simp,
    ⟨word, hword, x, bl, _, hx, hbl, ⟨no, hmark, sign, hsign, rfl⟩, rfl⟩, hnum, rfl, by simp⟩

end Projects

section Amounts

variable {a w b : List Char} {caps : List (Capture Part)}

theorem filter_eq_nil_of_blank (h : ∀ x ∈ w, Text.isBlank x = true) :
    w.filter (!Text.isBlank ·) = [] := by
  rw [List.filter_eq_nil_iff]
  intro x hx
  simp [h x hx]

/-- The words of a comparison, without the blanks between them. -/
def Wording.spelling : Wording → String
  | word s => s
  | attached first second | apart first second => first ++ second

/-- Apart from blanks, a wording is taken as it is spelled. -/
theorem takes_wording {wording : Wording} (h : wording.pattern.Takes a w b caps) :
    w.filter (!Text.isBlank ·) = wording.spelling.toList.filter (!Text.isBlank ·) ∧ caps = [] := by
  cases wording with
  | word s =>
    obtain ⟨rfl, rfl⟩ := takes_text_iff.1 h
    exact ⟨rfl, rfl⟩
  | attached first second =>
    simp only [Wording.pattern, chain_cons_cons, chain_singleton, takes_seq_iff, takes_text_iff,
      takes_blanks_iff] at h
    obtain ⟨_, _, _, _, rfl, rfl, ⟨rfl, rfl⟩, bl, _, _, _, rfl, rfl, ⟨hbl, rfl⟩, rfl, rfl⟩ := h
    simp [Wording.spelling, filter_eq_nil_of_blank hbl]
  | apart first second =>
    simp only [Wording.pattern, chain_cons_cons, chain_singleton, takes_seq_iff, takes_text_iff,
      someBlanks, takes_run_iff] at h
    obtain ⟨_, _, _, _, rfl, rfl, ⟨rfl, rfl⟩, bl, _, _, _, rfl, rfl, ⟨hbl, -, rfl⟩, rfl, rfl⟩ := h
    simp [Wording.spelling, filter_eq_nil_of_blank hbl]

/-- The words for a bound from below. -/
def aboveSpellings : List String := aboveWordings.map Wording.spelling

/-- The words for a bound from above. -/
def belowSpellings : List String := belowWordings.map Wording.spelling

def comparisonWords : List String := aboveSpellings ++ belowSpellings

theorem comparisonWords_plain : ∀ word ∈ comparisonWords,
    word.toList.filter (!Text.isBlank ·) = word.toList := by
  decide

/-- One of some wordings is taken, which have no blanks of their own. -/
theorem takes_wordings {wordings : List Wording}
    (hwords : ∀ word ∈ wordings.map Wording.spelling, word ∈ comparisonWords)
    (h : (oneOf (wordings.map Wording.pattern)).Takes a w b caps) :
    (∃ word ∈ wordings.map Wording.spelling, w.filter (!Text.isBlank ·) = word.toList) ∧
      caps = [] := by
  obtain ⟨_, hpattern, htakes⟩ := takes_oneOf_iff.1 h
  obtain ⟨wording, hwording, rfl⟩ := List.mem_map.1 hpattern
  obtain ⟨hspelled, rfl⟩ := takes_wording htakes
  have hword : wording.spelling ∈ wordings.map Wording.spelling := List.mem_map_of_mem hwording
  refine ⟨⟨_, hword, ?_⟩, rfl⟩
  rw [hspelled, comparisonWords_plain _ (hwords _ hword)]

theorem takes_aboveWords (h : aboveWords.Takes a w b caps) :
    (∃ word ∈ aboveSpellings, w.filter (!Text.isBlank ·) = word.toList) ∧ caps = [] :=
  takes_wordings (fun _ => List.mem_append_left _) h

theorem takes_belowWords (h : belowWords.Takes a w b caps) :
    (∃ word ∈ belowSpellings, w.filter (!Text.isBlank ·) = word.toList) ∧ caps = [] :=
  takes_wordings (fun _ => List.mem_append_right _) h

/-- A comparison and a letter before its number, without blanks. -/
def comparisons : List String :=
  comparisonWords.flatMap fun word => ("" :: amountLetters).map (word ++ ·)

/-- What stands before an amount: a comparison of it. -/
def OpensAmount (a opening : List Char) : Prop :=
  ∃ sep, Opens a sep ∧ ∃ words, (∃ t ∈ comparisons, words.filter (!Text.isBlank ·) = t.toList) ∧
    opening = sep ++ words

/-- Grouped digits, and decimal places. -/
def IsAmount (num : List Char) : Prop :=
  ∃ whole places, num = whole ++ places ∧ IsGrouped whole ∧
    (places = [] ∨ ∃ ds, places = ".".toList ++ ds ∧ ∀ x ∈ ds, Text.isDigit x = true)

theorem takes_amountNumber
    (h : (seq (digits 1 (some 1)) (seq (run isDigitOrComma 0 none)
      (maybe (seq (text ".") (digits 1 none)))) : Pattern Part).Takes a w b caps) :
    IsAmount w ∧ caps = [] := by
  simp only [takes_seq_iff, takes_oneDigit_iff, takes_run_iff, takes_maybe_iff, takes_text_iff] at h
  obtain ⟨_, _, _, _, rfl, rfl, ⟨⟨first, hfirst, rfl⟩, rfl⟩, h⟩ := h
  obtain ⟨rest, places, _, _, rfl, rfl, ⟨hrest, -, rfl⟩, hplaces⟩ := h
  have hwhole : IsGrouped (first :: rest) := ⟨first, rest, rfl, hfirst, hrest⟩
  rcases hplaces with ⟨_, ds, _, _, rfl, rfl, ⟨rfl, rfl⟩, hds, -, rfl⟩ | ⟨rfl, rfl⟩
  · exact ⟨⟨first :: rest, _, by simp, hwhole, .inr ⟨ds, rfl, hds⟩⟩, rfl⟩
  · exact ⟨⟨first :: rest, [], by simp, hwhole, .inl rfl⟩, rfl⟩

/-- The direction of a comparison is captured as such, and its words are known. -/
theorem takes_direction (h : (either (group .above aboveWords) (group .below belowWords)).Takes
    a w b caps) : (∃ word ∈ comparisonWords, w.filter (!Text.isBlank ·) = word.toList) ∧
      ∃ label, (label == Part.number) = false ∧ caps = [⟨label, a.length, w⟩] := by
  rcases h with ⟨inner, rfl, h⟩ | ⟨inner, rfl, h⟩
  · obtain ⟨⟨word, hword, hspelled⟩, rfl⟩ := takes_aboveWords h
    exact ⟨⟨word, List.mem_append_left _ hword, hspelled⟩, .above, rfl, rfl⟩
  · obtain ⟨⟨word, hword, hspelled⟩, rfl⟩ := takes_belowWords h
    exact ⟨⟨word, List.mem_append_right _ hword, hspelled⟩, .below, rfl, rfl⟩

theorem readsNumber_amountBound :
    ReadsNumber amountBound OpensAmount IsAmount fun _ _ => True := by
  intro a w b caps h
  simp only [amountBound, chain_cons_cons, chain_singleton, takes_seq_iff, takes_afterBlank_iff,
    takes_maybe_anyText_iff, takes_blanks_iff] at h
  obtain ⟨sep, _, _, _, rfl, rfl, ⟨hsep, rfl⟩, h⟩ := h
  obtain ⟨words, _, direction, _, rfl, rfl, hwords, h⟩ := h
  obtain ⟨bl, _, _, _, rfl, rfl, ⟨hbl, rfl⟩, h⟩ := h
  obtain ⟨_, _, _, _, rfl, rfl, ⟨⟨letter, hletter, rfl⟩, rfl⟩, h⟩ := h
  obtain ⟨bl', _, _, _, rfl, rfl, ⟨hbl', rfl⟩, h⟩ := h
  obtain ⟨num, ending, _, unit, rfl, rfl, ⟨inner, rfl, h⟩, -⟩ := h
  obtain ⟨hamount, rfl⟩ := takes_amountNumber h
  obtain ⟨⟨word, hword, hspells⟩, label, hlabel, hdirection⟩ := takes_direction hwords
  refine ⟨sep ++ (words ++ (bl ++ (letter.toList ++ bl'))), num, ending, by simp,
    ⟨sep, hsep, _, ⟨word ++ letter, ?_, ?_⟩, rfl⟩, hamount, trivial, ?_⟩
  · exact List.mem_flatMap.2 ⟨word, hword, List.mem_map_of_mem hletter⟩
  · have hplain : ∀ t ∈ "" :: amountLetters, t.toList.filter (!Text.isBlank ·) = t.toList := by
      decide
    simp only [List.filter_append, hspells, filter_eq_nil_of_blank hbl, filter_eq_nil_of_blank hbl',
      hplain letter hletter, String.toList_append, List.nil_append, List.append_nil]
  · simp [hdirection, hlabel]

end Amounts

end CivicReport.Extraction
