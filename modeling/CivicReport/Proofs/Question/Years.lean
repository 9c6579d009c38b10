import CivicReport.Registry.Municipal
import CivicReport.Proofs.Decimal.Digits
import CivicReport.Proofs.Question.Numbers
import Mathlib.Data.List.Chain

/-!
Which years of a question are found. A match of the year pattern takes the blank before its word
and the character behind its number, so two years with one blank between them are too close for a
search. Main statement: every other year is found, unless a number before it is taken for the year
and cannot be read.
-/
namespace CivicReport.Extraction

open Pattern

variable {q : Question} {d : Domain} {s : List Char} {m m' : PatternMatch Part}
  {c c' : Capture Part}

/-- After a blank within a match stands another blank or a digit. -/
def Leads (x y : Char) : Prop :=
  Text.isBlank x = true → Text.isBlank y = true ∨ Text.isDigit y = true

theorem isChain_leads_append {l r : List Char} (hl : ∀ x ∈ l, Text.isBlank x = false)
    (hr : r.IsChain Leads) : (l ++ r).IsChain Leads := by
  induction l with
  | nil => exact hr
  | cons x l ih =>
    rw [List.cons_append, List.isChain_cons]
    refine ⟨fun y _ hx => ?_, ih fun y hy => hl y (List.mem_cons_of_mem x hy)⟩
    rw [hl x List.mem_cons_self] at hx
    contradiction

theorem isChain_leads_blanks_append {bl r : List Char} (hbl : ∀ x ∈ bl, Text.isBlank x = true)
    (hhead : ∀ y ∈ r.head?, Text.isDigit y = true) (hr : r.IsChain Leads) :
    (bl ++ r).IsChain Leads := by
  induction bl with
  | nil => exact hr
  | cons x bl ih =>
    rw [List.cons_append, List.isChain_cons]
    refine ⟨fun y hy _ => ?_, ih fun y hy => hbl y (List.mem_cons_of_mem x hy)⟩
    cases bl with
    | nil => exact .inr (hhead y hy)
    | cons z bl =>
      obtain rfl : z = y := Option.some.inj hy
      exact .inl (hbl z (by simp))

theorem IsYear.isDigit {num : List Char} (h : IsYear num) : ∀ x ∈ num, Text.isDigit x = true := by
  obtain ⟨century, hcentury, rest, rfl, -, hrest⟩ := h
  have hdigits : ∀ t ∈ ["19", "20"], ∀ x ∈ t.toList, Text.isDigit x = true := by decide
  intro x hx
  rcases List.mem_append.1 hx with hx | hx
  · exact hdigits century hcentury x hx
  · exact hrest x hx

theorem IsYear.length_eq {num : List Char} (h : IsYear num) : num.length = 4 := by
  obtain ⟨century, hcentury, rest, rfl, hlength, -⟩ := h
  have hcenturies : ∀ t ∈ ["19", "20"], t.toList.length = 2 := by decide
  rw [List.length_append, hcenturies century hcentury, hlength]

theorem yearWords_plain : ∀ word ∈ yearWords, ∀ x ∈ word.toList,
    Text.isBlank x = false ∧ Text.isDigit x = false := by
  decide

theorem yearWords_ne_empty : ∀ word ∈ yearWords, word.toList ≠ [] := by
  decide

/-- What a match takes after its first character leads on to the number. -/
theorem isChain_leads_tail {a opening num ending b : List Char} (hopening : OpensYear a opening)
    (hnum : IsYear num) (hending : Ends isDigitOrComma ending b) :
    (opening ++ (num ++ ending)).tail.IsChain Leads := by
  obtain ⟨sep, hsep, word, hword, bl, hbl, rfl⟩ := hopening
  have hlast : ending.IsChain Leads := by
    rcases hending with ⟨x, -, rfl⟩ | ⟨rfl, -⟩
    · exact List.isChain_singleton x
    · exact List.isChain_nil
  have hdigits : (num ++ ending).IsChain Leads :=
    isChain_leads_append (fun x hx => Text.isBlank_eq_false_of_isDigit (hnum.isDigit x hx)) hlast
  have hhead : ∀ y ∈ (num ++ ending).head?, Text.isDigit y = true := by
    intro y hy
    have hne : num ≠ [] := List.ne_nil_of_length_pos (by rw [hnum.length_eq]; decide)
    rw [List.head?_append_of_ne_nil _ hne] at hy
    exact hnum.isDigit y (List.mem_of_mem_head? hy)
  have hcore : (word.toList ++ (bl ++ (num ++ ending))).IsChain Leads :=
    isChain_leads_append (fun x hx => (yearWords_plain word hword x hx).1)
      (isChain_leads_blanks_append hbl hhead hdigits)
  rcases hsep with ⟨-, rfl⟩ | ⟨x, -, rfl⟩
  · simpa using hcore.tail
  · simpa using hcore

/-- Two characters that a match takes one after the other, not at its start, lead on. -/
theorem leads_of_within {a a' w' b' t : List Char} {x y : Char}
    (hsplit : a' ++ (w' ++ b') = a ++ x :: y :: t) (hchain : w'.tail.IsChain Leads)
    (hstart : a'.length < a.length) (hstop : a.length + 1 < a'.length + w'.length) :
    Leads x y := by
  obtain ⟨u, rfl⟩ : a' <+: a :=
    List.prefix_of_prefix_length_le ⟨_, hsplit⟩ (List.prefix_append ..) (Nat.le_of_lt hstart)
  rw [List.append_assoc, List.append_cancel_left_eq] at hsplit
  rw [List.length_append] at hstart hstop
  obtain ⟨z, hz⟩ : u ++ [x, y] <+: w' := by
    have hbegins : u ++ [x, y] <+: u ++ x :: y :: t := ⟨t, by simp⟩
    refine List.prefix_of_prefix_length_le hbegins ⟨b', hsplit⟩ ?_
    simp only [List.length_append, List.length_cons, List.length_nil]
    omega
  have hne : u ≠ [] := by
    rintro rfl
    simp at hstart
  rw [← hz, List.append_assoc, List.tail_append_of_ne_nil hne] at hchain
  exact (List.isChain_append_cons_cons.1 hchain).2.1

/-- A match that begins within another one begins at its last character. -/
theorem stop_eq_of_overlap (h : yearNumber.IsMatch s m) (h' : yearNumber.IsMatch s m')
    (hstart : m'.start < m.start) (hstop : m.start < m'.stop) : m'.stop = m.start + 1 := by
  obtain ⟨a, _, num, ending, b, hs, ⟨sep, hsep, word, hword, bl, -, rfl⟩, -, -, hm, -, -⟩ :=
    readsNumber_yearNumber.of_isMatch h
  obtain ⟨a', opening', num', ending', b', hs', hopening', hnum', hending', hm', hm'stop, -⟩ :=
    readsNumber_yearNumber.of_isMatch h'
  rw [hm] at hstart hstop ⊢
  rw [hm'] at hstart
  rw [hm'stop] at hstop ⊢
  -- The later match begins with a blank and the first letter of a word.
  obtain ⟨x, hx, rfl⟩ : ∃ x, Text.isBlank x = true ∧ sep = [x] := by
    rcases hsep with ⟨rfl, -⟩ | hsep
    · exact absurd hstart (Nat.not_lt_zero _)
    · exact hsep
  obtain ⟨y, letters, hletters⟩ := List.exists_cons_of_ne_nil (yearWords_ne_empty word hword)
  have hy := yearWords_plain word hword y (by rw [hletters]; exact List.mem_cons_self)
  have hsplit : a' ++ (opening' ++ (num' ++ ending') ++ b') =
      a ++ x :: y :: (letters ++ (bl ++ (num ++ (ending ++ b)))) := by
    rw [hs, hletters] at hs'
    simpa using hs'.symm
  by_contra hfar
  have hleads : Leads x y := by
    refine leads_of_within hsplit (isChain_leads_tail hopening' hnum' hending') hstart ?_
    simp only [List.length_append] at hstop hfar ⊢
    omega
  rcases hleads hx with hblank | hdigit
  · rw [hy.1] at hblank
    contradiction
  · rw [hy.2] at hdigit
    contradiction

/-- Years are found from left to right. -/
theorem pairwise_numbers_yearNumber :
    (numbers yearNumber s).Pairwise fun c c' => c.start < c'.start := by
  refine List.pairwise_filterMap.2 (pairwise_allMatches.imp_of_mem ?_)
  intro m m' hm hm' hlt c hc c' hc'
  obtain ⟨a, opening, num, ending, b, -, -, hnum, -, -, hstop, hfound⟩ :=
    readsNumber_yearNumber.of_isMatch (isMatch_of_mem_allMatches hm)
  obtain ⟨a', opening', num', ending', b', -, -, -, -, hstart', -, hfound'⟩ :=
    readsNumber_yearNumber.of_isMatch (isMatch_of_mem_allMatches hm')
  obtain rfl := Option.some.inj (hc.symm.trans hfound)
  obtain rfl := Option.some.inj (hc'.symm.trans hfound')
  have hfour := hnum.length_eq
  simp only [List.length_append] at hstop ⊢
  omega

/-- Where the numbers of comparisons begin. -/
def amountStarts (s : List Char) : List Nat := (numbers amountBound s).map (·.start)

def IsAscii (num : List Char) : Prop := ∀ x ∈ num, isAsciiDigit x = true

instance {num : List Char} : Decidable (IsAscii num) :=
  inferInstanceAs (Decidable (∀ x ∈ num, isAsciiDigit x = true))

/-- The first year that is no amount. -/
def yearCapture? (q : Question) : Option (Capture Part) :=
  (numbers yearNumber q.folded).find? fun c => !(amountStarts q.folded).contains c.start

theorem year?_eq : year? q d = (yearCapture? q).bind fun c =>
    (readInt64? c.text).map fun n => ("year", .integer n) := rfl

/-- A year that is no amount is read, or an earlier one is taken for it. -/
theorem exists_year?_of_mem (hc : c ∈ numbers yearNumber q.folded)
    (hamount : c.start ∉ amountStarts q.folded) (hascii : IsAscii c.text)
    (hbefore : ∀ c' ∈ numbers yearNumber q.folded, c'.start < c.start →
      c'.start ∉ amountStarts q.folded → IsAscii c'.text) :
    ∃ n, year? q d = some ("year", .integer n) := by
  have hsome : (yearCapture? q).isSome := by
    rw [yearCapture?, List.find?_isSome]
    exact ⟨c, hc, by simpa using hamount⟩
  obtain ⟨first, hfirst⟩ := Option.isSome_iff_exists.1 hsome
  obtain ⟨hfree, earlier, later, hlist, hearlier⟩ := List.find?_eq_some_iff_append.1 hfirst
  have hmem : first ∈ numbers yearNumber q.folded := List.mem_of_find?_eq_some hfirst
  have hreadable : IsAscii first.text := by
    rw [hlist, List.mem_append, List.mem_cons] at hc
    rcases hc with hc | rfl | hc
    · simpa [hamount] using hearlier c hc
    · exact hascii
    · have hordered := pairwise_numbers_yearNumber (s := q.folded)
      rw [hlist, List.pairwise_append, List.pairwise_cons] at hordered
      exact hbefore first hmem (hordered.2.1.1 c hc) (by simpa using hfree)
  have hlength : first.text.length = 4 := by
    obtain ⟨a, opening, num, ending, b, -, -, hnum, -, heq⟩ :=
      readsNumber_yearNumber.of_mem_numbers hmem
    rw [heq]
    exact hnum.length_eq
  obtain ⟨n, hn⟩ := exists_readInt64? (List.ne_nil_of_length_pos (by omega)) (by omega) hreadable
  refine ⟨n, ?_⟩
  rw [year?_eq, hfirst, Option.bind_some, hn, Option.map_some]

/-- Every year in ASCII digits that is not the number of a comparison makes the question have a
year, unless the blank before it belongs to the match before, or an earlier year is not in ASCII
digits. -/
theorem exists_year?_of_matchAt? {before rest : List Char} (hsplit : before ++ rest = q.folded)
    (hmatch : yearNumber.matchAt? (.between before rest) = some m)
    (hcapture : m.capture? .number = some c) (hascii : IsAscii c.text)
    (hamount : c.start ∉ amountStarts q.folded)
    (hapart : ∀ m' ∈ yearNumber.allMatches q.folded, m'.stop ≠ before.length + 1)
    (hbefore : ∀ c' ∈ numbers yearNumber q.folded, c'.start < c.start →
      c'.start ∉ amountStarts q.folded → IsAscii c'.text) :
    ∃ n, year? q d = some ("year", .integer n) := by
  have hfound : m ∈ yearNumber.allMatches q.folded := by
    have hcases := mem_allMatches_or_covered hmatch
    rw [hsplit] at hcases
    rcases hcases with hmem | ⟨m', hm', hstart, hstop⟩
    · exact hmem
    · have hm : yearNumber.IsMatch q.folded m := hsplit ▸ isMatch_of_matchAt? hmatch
      rw [← start_of_matchAt? hmatch] at hstart hstop
      have hlast := stop_eq_of_overlap hm (isMatch_of_mem_allMatches hm') hstart hstop
      rw [start_of_matchAt? hmatch] at hlast
      exact absurd hlast (hapart m' hm')
  exact exists_year?_of_mem (mem_numbers_iff.2 ⟨m, hfound, hcapture⟩) hamount hascii hbefore

theorem exists_year?_of_matchAt?_aboveAmount :
    ∃ n, year? (.ofText "חשבוניות מעל 5000 ב-2024") Registry.transactions =
      some ("year", .integer n) := by
  have hfolded : (Question.ofText "חשבוניות מעל 5000 ב-2024").folded =
      "חשבוניות מעל 5000".toList ++ " ב 2024".toList := by decide
  have hmatches : yearNumber.allMatches (Question.ofText "חשבוניות מעל 5000 ב-2024").folded =
      [⟨17, 24, [⟨.number, 20, "2024".toList⟩]⟩] := by decide
  refine exists_year?_of_matchAt? (c := ⟨.number, 20, "2024".toList⟩) hfolded.symm
    (m := ⟨17, 24, [⟨.number, 20, "2024".toList⟩]⟩) (by decide) rfl (by decide)
    (by decide) ?_ ?_
  · rw [hmatches]
    decide
  · intro c' hc' hbefore _
    rw [numbers, hmatches] at hc'
    obtain rfl := List.mem_singleton.1 hc'
    exact absurd hbefore (Nat.lt_irrefl _)

/-- An amount that looks like a year takes the blank that the year behind it needs. -/
theorem year?_belowAmount :
    "חשבוניות מתחת ל 2000".toList ++ " ב 2024".toList =
        (Question.ofText "חשבוניות מתחת ל-2000 ב-2024").folded ∧
      yearNumber.matchAt? (.between "חשבוניות מתחת ל 2000".toList " ב 2024".toList) =
        some ⟨20, 27, [⟨.number, 23, "2024".toList⟩]⟩ ∧
      IsAscii "2024".toList ∧
      23 ∉ amountStarts (Question.ofText "חשבוניות מתחת ל-2000 ב-2024").folded ∧
      year? (.ofText "חשבוניות מתחת ל-2000 ב-2024") Registry.transactions = none :=
  ⟨by decide, by decide, by decide, by decide,
    Option.isNone_iff_eq_none.1 (by decide)⟩

end CivicReport.Extraction
