import CivicReport.Proofs.Question.Punctuation

/-!
A full stop or a comma behind a question. Behind the digits of a year stands the end of the text or
a character that is neither a digit nor a comma, so a comma right behind a year hides it. Main
statement: a full stop changes none of the filters, and a comma changes none but the year that it
stands behind, which is lost.
-/
namespace CivicReport.Extraction

open Pattern

variable {q q' : Question} {d : Domain} {s t a r opening num rest : List Char}
  {m : PatternMatch Part} {c : Capture Part}

section Places

theorem OpensYear.isDigit_eq_false (h : OpensYear a opening) :
    ∀ x ∈ opening, Text.isDigit x = false := by
  have hblank {x : Char} (hx : Text.isBlank x = true) : Text.isDigit x = false := by
    by_contra hdigit
    rw [Text.isBlank_eq_false_of_isDigit (by simpa using hdigit)] at hx
    contradiction
  obtain ⟨sep, hsep, word, hword, bl, hbl, rfl⟩ := h
  intro x hx
  rcases List.mem_append.1 hx with hx | hx
  · rcases hsep with ⟨-, rfl⟩ | ⟨y, hy, rfl⟩
    · exact absurd hx List.not_mem_nil
    · exact hblank (List.mem_singleton.1 hx ▸ hy)
  · rcases List.mem_append.1 hx with hx | hx
    · exact (yearWords_plain word hword x hx).2
    · exact hblank (hbl x hx)

/-- A year can be read at a place: an opening, the digits, and then neither a digit nor a comma. -/
structure YearAt (a r opening num rest : List Char) : Prop where
  split : r = opening ++ (num ++ rest)
  opens : OpensYear a opening
  isYear : IsYear num
  ends : ∀ c ∈ rest.head?, isDigitOrComma c = false

/-- The match of a year: it takes one character behind the digits, if there is one. -/
def yearMatch (a opening num rest : List Char) : PatternMatch Part :=
  ⟨a.length, (a ++ (opening ++ (num ++ rest.take 1))).length,
    [⟨.number, (a ++ opening).length, num⟩]⟩

/-- A year can be read in one way only: its digits are the first ones. -/
theorem YearAt.unique {opening' num' rest' : List Char} (h : YearAt a r opening num rest)
    (h' : YearAt a r opening' num' rest') : opening = opening' ∧ num = num' ∧ rest = rest' := by
  have hfront {o n e : List Char} (h : YearAt a r o n e) :
      o = r.takeWhile (!Text.isDigit ·) := by
    have hfirst : ((n ++ e).takeWhile (!Text.isDigit ·)) = [] := by
      obtain ⟨x, n, rfl⟩ := List.exists_cons_of_length_eq_add_one h.isYear.length_eq
      rw [List.cons_append, List.takeWhile_cons_of_neg]
      simp [h.isYear.isDigit x List.mem_cons_self]
    rw [h.split, List.takeWhile_append_of_pos, hfirst, List.append_nil]
    exact fun x hx => by rw [h.opens.isDigit_eq_false x hx]; rfl
  have hsplit := h.split.symm.trans h'.split
  rw [hfront h, hfront h', List.append_cancel_left_eq] at hsplit
  obtain ⟨hnum, hrest⟩ := List.append_inj hsplit (h.isYear.length_eq.trans h'.isYear.length_eq.symm)
  exact ⟨(hfront h).trans (hfront h').symm, hnum, hrest⟩

theorem exists_yearAt_of_mem_readings {o : List Char × List (Capture Part)}
    (ho : o ∈ yearNumber.readings a r) : ∃ opening num rest, YearAt a r opening num rest ∧
      o = (opening ++ (num ++ rest.take 1), [⟨.number, (a ++ opening).length, num⟩]) := by
  obtain ⟨w, caps⟩ := o
  obtain ⟨b, rfl, htakes⟩ := mem_readings_iff.1 ho
  obtain ⟨opening, num, ending, rfl, hopening, hnum, hending, rfl⟩ := takes_yearNumber_iff.1 htakes
  refine ⟨opening, num, ending ++ b, ⟨by simp, hopening, hnum, ?_⟩, ?_⟩
  · rcases hending with ⟨x, hx, rfl⟩ | ⟨rfl, rfl⟩
    · rintro y ⟨rfl⟩
      exact hx
    · nofun
  · rcases hending with ⟨x, hx, rfl⟩ | ⟨rfl, rfl⟩ <;> simp

theorem YearAt.mem_readings (h : YearAt a r opening num rest) :
    (opening ++ (num ++ rest.take 1), [⟨.number, (a ++ opening).length, num⟩]) ∈
      yearNumber.readings a r := by
  have hsplit : r = opening ++ (num ++ rest.take 1) ++ rest.drop 1 := by
    simp only [h.split, List.append_assoc, List.take_append_drop]
  refine mem_readings_iff.2 ⟨rest.drop 1, hsplit, takes_yearNumber_iff.2
    ⟨opening, num, rest.take 1, rfl, h.opens, h.isYear, ?_, rfl⟩⟩
  cases rest with
  | nil => exact .inr ⟨rfl, rfl⟩
  | cons x rest => exact .inl ⟨x, h.ends x rfl, rfl⟩

theorem matchAt?_yearNumber_eq_some_iff : yearNumber.matchAt? (.between a r) = some m ↔
    ∃ opening num rest, YearAt a r opening num rest ∧ m = yearMatch a opening num rest := by
  rw [matchAt?_eq_some_iff]
  constructor
  · rintro ⟨w, caps, hhead, rfl⟩
    obtain ⟨opening, num, rest, hyear, heq⟩ :=
      exists_yearAt_of_mem_readings (List.mem_of_head? hhead)
    obtain ⟨rfl, rfl⟩ := Prod.mk.inj heq
    exact ⟨opening, num, rest, hyear, rfl⟩
  · rintro ⟨opening, num, rest, hyear, rfl⟩
    obtain ⟨o, hhead⟩ := Option.isSome_iff_exists.1
      (List.isSome_head?.2 (List.ne_nil_of_mem hyear.mem_readings))
    obtain ⟨opening', num', rest', hyear', rfl⟩ :=
      exists_yearAt_of_mem_readings (List.mem_of_head? hhead)
    obtain ⟨rfl, rfl, rfl⟩ := hyear.unique hyear'
    exact ⟨_, _, hhead, rfl⟩

/-- The digits of a year do not reach into punctuation behind the text. -/
theorem YearAt.exists_of_append (ht : IsPunctuation t) (h : YearAt a (r ++ t) opening num rest) :
    ∃ rest', rest = rest' ++ t ∧ r = opening ++ (num ++ rest') := by
  have hsplit : r ++ t = (opening ++ num) ++ rest := by rw [h.split, List.append_assoc]
  have hne : num ≠ [] := List.ne_nil_of_length_pos (by rw [h.isYear.length_eq]; decide)
  have hlast : ∃ x ∈ (opening ++ num).getLast?, Text.isDigit x = true := by
    rw [List.getLast?_append_of_ne_nil _ hne]
    exact ⟨_, List.getLast?_eq_some_getLast hne, h.isYear.isDigit _ (List.getLast_mem hne)⟩
  obtain ⟨rest', rfl, hrest⟩ := exists_of_append_eq hsplit hlast ht.isDigit
  exact ⟨rest', hrest, List.append_assoc ..⟩

end Places

section Comma

/-- A year with nothing behind it, not even in the text. -/
def LastYear (s a : List Char) (m : PatternMatch Part) : Prop :=
  ∃ opening num, a ++ (opening ++ num) = s ∧ OpensYear a opening ∧ IsYear num ∧
    m = yearMatch a opening num []

/-- A comma behind a text hides a year only where nothing stands between them. -/
theorem rel_matchAt?_or_lastYear (ht : IsPunctuation t) (hs : a ++ r = s) :
    Option.Rel Eq (yearNumber.matchAt? (.between a (r ++ t))) (yearNumber.matchAt? (.between a r)) ∨
      ∃ m, yearNumber.matchAt? (.between a r) = some m ∧ LastYear s a m := by
  cases hm : yearNumber.matchAt? (.between a r) with
  | none =>
    left
    cases hm' : yearNumber.matchAt? (.between a (r ++ t)) with
    | none => exact .none
    | some m' =>
      obtain ⟨opening, num, rest, hyear, -⟩ := matchAt?_yearNumber_eq_some_iff.1 hm'
      obtain ⟨rest', rfl, rfl⟩ := hyear.exists_of_append ht
      have hends : ∀ c ∈ rest'.head?, isDigitOrComma c = false := by
        intro c hc
        refine hyear.ends c ?_
        rw [List.head?_append, hc]
        rfl
      rw [matchAt?_yearNumber_eq_some_iff.2 ⟨_, _, rest', ⟨rfl, hyear.opens, hyear.isYear, hends⟩,
        rfl⟩] at hm
      contradiction
  | some m =>
    obtain ⟨opening, num, rest, hyear, rfl⟩ := matchAt?_yearNumber_eq_some_iff.1 hm
    cases rest with
    | nil =>
      refine .inr ⟨_, rfl, opening, num, ?_, hyear.opens, hyear.isYear, rfl⟩
      rw [← hs, hyear.split, List.append_nil]
    | cons x rest =>
      left
      have hyear' : YearAt a (r ++ t) opening num (x :: (rest ++ t)) :=
        ⟨by rw [hyear.split]; simp, hyear.opens, hyear.isYear, hyear.ends⟩
      rw [matchAt?_yearNumber_eq_some_iff.2 ⟨_, _, _, hyear', rfl⟩]
      exact .some rfl

/-- Behind a year at the end of a text with a comma no other year is found. -/
theorem LastYear.matchAt?_eq_none (h : LastYear s a m) (ht : IsPunctuation t)
    (hcomma : t.head? = some ',') {a' r' : List Char} (hs : a' ++ r' = s)
    (hle : a.length ≤ a'.length) : yearNumber.matchAt? (.between a' (r' ++ t)) = none := by
  rw [Option.eq_none_iff_forall_ne_some]
  intro m' hm'
  obtain ⟨opening, num, rfl, hopens, hnum, -⟩ := h
  obtain ⟨opening', num', rest, hyear, -⟩ := matchAt?_yearNumber_eq_some_iff.1 hm'
  obtain ⟨rest', rfl, rfl⟩ := hyear.exists_of_append ht
  obtain ⟨x, digits, rfl⟩ := List.exists_cons_of_length_eq_add_one hyear.isYear.length_eq
  have hne : rest' ≠ [] := by
    rintro rfl
    exact absurd (hyear.ends ',' hcomma) (by decide)
  obtain ⟨u, rfl⟩ : a <+: a' :=
    List.prefix_of_prefix_length_le ⟨_, rfl⟩ ⟨_, hs⟩ hle
  -- Its first digit would stand before the digits of the last year.
  have hsplit : opening ++ num = (u ++ opening') ++ (x :: (digits ++ rest')) := by
    simpa [List.append_assoc] using hs.symm
  have hfour := hnum.length_eq
  have hfour' := hyear.isYear.length_eq
  have hpos := List.length_pos_iff.2 hne
  rcases List.append_eq_append_iff.1 hsplit with ⟨more, hmore, hnum'⟩ | ⟨more, rfl, hmore⟩
  · have hlength := congrArg List.length hnum'
    simp only [List.length_append, List.length_cons] at hlength hfour'
    omega
  · cases more with
    | nil =>
      have hlength := congrArg List.length hmore
      simp only [List.length_append, List.length_cons, List.nil_append] at hlength hfour'
      omega
    | cons y more =>
      obtain ⟨rfl, -⟩ := List.cons.inj hmore
      have hdigit := hopens.isDigit_eq_false x (by simp)
      rw [hyear.isYear.isDigit x List.mem_cons_self] at hdigit
      contradiction

theorem LastYear.length_le (h : LastYear s a m) : s.length ≤ m.stop := by
  obtain ⟨opening, num, rfl, -, -, rfl⟩ := h
  simp [yearMatch]

/-- With a comma behind a text all its years are found but one at its end. -/
theorem numbers_yearNumber_append (ht : IsPunctuation t) (hcomma : t.head? = some ',') :
    numbers yearNumber (s ++ t) = numbers yearNumber s ∨
      ∃ c, c.start + c.text.length = s.length ∧
        numbers yearNumber s = numbers yearNumber (s ++ t) ++ [c] := by
  have hfound := forall₂_allMatches (p := yearNumber) (s := s) (t := t) (R := Eq)
    (fun _ _ h => .inl (congrArg _ h))
    (fun u v huv => rel_matchAt?_or_lastYear ht huv)
    (fun u m hlast => ⟨hlast.length_le, fun u' v' huv => hlast.matchAt?_eq_none ht hcomma huv⟩)
    (yearNumber_eq ▸ endsIn_yearDigits.needs.seq_left.chain) ht.isDigit
  rw [List.forall₂_eq_eq_eq] at hfound
  rcases hfound with heq | ⟨l, a, m, ⟨opening, num, rfl, -, -, rfl⟩, hl, heq⟩
  · left
    rw [numbers, numbers, heq]
  · refine .inr ⟨⟨.number, (a ++ opening).length, num⟩, by simp [Nat.add_assoc], ?_⟩
    rw [numbers, numbers, hl, heq, List.filterMap_append]
    rfl

/-- No year that is found before a comma stands right before it. -/
theorem ne_length_of_mem_numbers (hcomma : t.head? = some ',')
    (hc : c ∈ numbers yearNumber (s ++ t)) : c.start + c.text.length ≠ s.length := by
  obtain ⟨a, opening, num, ending, b, hs, -, -, hending, rfl⟩ :=
    readsNumber_yearNumber.of_mem_numbers hc
  intro hlength
  have hsplit : s ++ t = (a ++ opening ++ num) ++ (ending ++ b) := by simp [hs]
  obtain ⟨-, rfl⟩ := List.append_inj hsplit (by rw [List.length_append, ← hlength])
  rcases hending with ⟨x, hx, rfl⟩ | ⟨rfl, rfl⟩
  · obtain rfl := Option.some.inj hcomma
    exact absurd hx (by decide)
  · contradiction

/-- The year that is found stands at the very end of the question. -/
def EndsInYear (q : Question) : Prop :=
  ∃ c ∈ yearCapture? q, c.start + c.text.length = q.folded.length

instance : Decidable (EndsInYear q) :=
  inferInstanceAs (Decidable (∃ c ∈ yearCapture? q, c.start + c.text.length = q.folded.length))

/-- A comma behind a question hides the year at its end, and no other is found instead. -/
theorem year?_append_comma (hq : q'.folded = q.folded ++ t) (ht : IsPunctuation t)
    (hcomma : t.head? = some ',') :
    year? q' d = if EndsInYear q then none else year? q d := by
  have hstarts := amountStarts_append hq ht
  have hnot : ∀ c ∈ yearCapture? q', c.start + c.text.length ≠ q.folded.length := by
    intro c hc
    refine ne_length_of_mem_numbers hcomma (hq ▸ List.mem_of_find?_eq_some hc)
  rcases numbers_yearNumber_append (s := q.folded) ht hcomma with heq | ⟨c, hc, heq⟩
  · have hsame : yearCapture? q' = yearCapture? q := by
      rw [yearCapture?, yearCapture?, hq, heq, ← hq, hstarts]
    rw [year?_eq, hsame, if_neg]
    · rfl
    · rintro ⟨c, hfound, hend⟩
      exact hnot c (hsame ▸ hfound) hend
  · have hsplit : yearCapture? q = (yearCapture? q').or ([c].find? fun c =>
        !(amountStarts q.folded).contains c.start) := by
      rw [yearCapture?, yearCapture?, heq, List.find?_append, hstarts, hq]
    cases hfound : yearCapture? q' with
    | some c' =>
      rw [hfound, Option.some_or] at hsplit
      rw [if_neg, year?_eq, year?_eq, hfound, hsplit]
      rintro ⟨c, hc, hend⟩
      rw [hsplit] at hc
      exact hnot c (hfound.trans hc) hend
    | none =>
      rw [hfound, Option.none_or] at hsplit
      rw [year?_eq, hfound, Option.bind_none]
      split
      · rfl
      · next hends =>
        have hnone : yearCapture? q = none := by
          rw [Option.eq_none_iff_forall_ne_some]
          intro c' hc'
          have hmem := List.mem_of_find?_eq_some (hsplit ▸ hc')
          exact hends ⟨c', hc', List.mem_singleton.1 hmem ▸ hc⟩
        rw [year?_eq, hnone]
        rfl

end Comma

section Filters

variable {rules : List Rule}

theorem filtersBy_congr (h : ∀ rule ∈ rules, rule.find q' d = rule.find q d) :
    filtersBy rules q' d = filtersBy rules q d := by
  refine List.foldl_ext _ _ _ fun found rule hrule => ?_
  rw [apply, apply, h rule hrule]

/-- A rule that finds nothing can be left out. -/
theorem filtersBy_filter (keeps : Rule → Bool)
    (h : ∀ rule ∈ rules, keeps rule = false → rule.find q d = none) :
    filtersBy (rules.filter keeps) q d = filtersBy rules q d := by
  rw [filtersBy, filtersBy, List.foldl_filter]
  refine List.foldl_ext _ _ _ fun found rule hrule => ?_
  split
  · rfl
  · next hkeeps => rw [apply, h rule hrule (by simpa using hkeeps)]

/-- Under the key of years stands nothing but the year. -/
theorem year?_of_find {v : Scalar} {rule : Rule} (hrule : rule ∈ Extraction.rules)
    (h : rule.find q d = some ("year", v)) : year? q d = some ("year", v) := by
  have hyear : (⟨"year", year?⟩ : Rule) ∈ Extraction.rules := by simp [Extraction.rules]
  obtain rfl : rule = ⟨"year", year?⟩ := eq_of_find hrule hyear h (by decide)
  exact h

theorem get?_filters_year_eq_none (h : year? q d = none) : (filters q d).get? "year" = none := by
  rw [Option.eq_none_iff_forall_ne_some]
  intro v hv
  obtain ⟨-, rule, hrule, hfind⟩ := mem_filters_iff.1 (Filters.mem_entries_iff.2 hv)
  have hfound := year?_of_find hrule hfind
  rw [h] at hfound
  contradiction

/-- Every rule but the one for years finds the same in front of punctuation. -/
theorem find_append (hq : q'.folded = q.folded ++ t) (ht : IsPunctuation t) :
    ∀ rule ∈ Extraction.rules, rule.find q' d = rule.find q d ∨ rule = ⟨"year", year?⟩ := by
  simp only [Extraction.rules, List.forall_mem_cons, List.not_mem_nil, false_implies, implies_true,
    and_true, or_true, true_and]
  exact ⟨.inl (project?_append hq ht), .inl (department?_append hq ht), .inl (amount?_append hq ht),
    .inl (status?_append hq ht), .inl (transactionType?_append hq ht), .inl (order?_append hq ht)⟩

/-- What stands behind a question and leaves its year as it is leaves all filters as they are. -/
theorem filters_append (hq : q'.folded = q.folded ++ t) (ht : IsPunctuation t)
    (hyear : year? q' d = year? q d) : filters q' d = filters q d := by
  refine filtersBy_congr fun rule hrule => ?_
  rcases find_append hq ht rule hrule with heq | rfl
  · exact heq
  · exact hyear

/-- The rules without the one for years. -/
def otherRules : List Rule := Extraction.rules.filter (·.name != "year")

/-- What hides the year of a question leaves the filters that the other rules find. -/
theorem filters_append_of_none (hq : q'.folded = q.folded ++ t) (ht : IsPunctuation t)
    (hyear : year? q' d = none) : filters q' d = filtersBy otherRules q d := by
  have hothers : ∀ rule ∈ Extraction.rules, rule.name = "year" → rule.find q' d = none := by
    simp [Extraction.rules, hyear]
  rw [filters, ← filtersBy_filter (·.name != "year") fun rule hrule hname =>
    hothers rule hrule (by simpa using hname)]
  refine filtersBy_congr fun rule hrule => ?_
  obtain ⟨hmem, hname⟩ := List.mem_filter.1 hrule
  refine (find_append hq ht rule hmem).resolve_right ?_
  rintro rfl
  exact absurd hname (by decide)

/-- A comma behind the question stands right behind the digits of its year. -/
def CommaHidesYear (s : String) : Prop :=
  (Question.ofText (s ++ ",")).folded = (Question.ofText s).folded ++ [','] ∧
    EndsInYear (.ofText s)

instance {s : String} : Decidable (CommaHidesYear s) := inferInstanceAs (Decidable (_ ∧ _))

theorem exists_append_mark {mark : Char} (hmark : mark = ',' ∨ mark = '.') (s : String) :
    ∃ t, (t = [mark] ∨ t = [' ', mark]) ∧ IsPunctuation t ∧
      (Question.ofText (s ++ String.singleton mark)).folded = (Question.ofText s).folded ++ t := by
  have hmem : mark ∈ [' ', ',', '.'] := by
    rcases hmark with rfl | rfl <;> decide
  obtain ⟨gap, hgap, hfolded⟩ := Question.exists_folded_append hmark s
  refine ⟨gap ++ [mark], ?_, ?_, hfolded⟩
  · rcases hgap with rfl | rfl
    · exact .inl rfl
    · exact .inr rfl
  · intro c hc
    rcases List.mem_append.1 hc with hc | hc
    · rcases hgap with rfl | rfl
      · exact absurd hc List.not_mem_nil
      · exact List.mem_singleton.1 hc ▸ List.mem_cons_self
    · exact List.mem_singleton.1 hc ▸ hmem

theorem filters_append_fullStop (s : String) (d : Domain) :
    filters (.ofText (s ++ ".")) d = filters (.ofText s) d := by
  obtain ⟨t, ht, hpunctuation, hq⟩ := exists_append_mark (.inr rfl) s
  refine filters_append hq hpunctuation (year?_append hq hpunctuation ?_)
  rcases ht with rfl | rfl <;> decide

theorem filters_append_comma (s : String) (d : Domain) : filters (.ofText (s ++ ",")) d =
    if CommaHidesYear s then filtersBy otherRules (.ofText s) d else filters (.ofText s) d := by
  obtain ⟨t, ht, hpunctuation, hq⟩ := exists_append_mark (.inl rfl) s
  change (Question.ofText (s ++ ",")).folded = _ at hq
  rcases ht with rfl | rfl
  · have hyear := year?_append_comma (d := d) hq hpunctuation rfl
    split
    · next hhides => exact filters_append_of_none hq hpunctuation (by rw [hyear, if_pos hhides.2])
    · next hhides =>
      refine filters_append hq hpunctuation ?_
      rw [hyear, if_neg fun hends => hhides ⟨hq, hends⟩]
  · -- The blank keeps the comma apart from whatever stands before it.
    have hfar : ¬ CommaHidesYear s := by
      rintro ⟨hclose, -⟩
      have hlength := congrArg List.length (hq.symm.trans hclose)
      simp at hlength
    rw [if_neg hfar]
    exact filters_append hq hpunctuation (year?_append hq hpunctuation (by decide))

/-- A full stop behind a question changes none of the filters, and a comma none but the year right
in front of it, which is lost. -/
theorem filters_append_mark (s : String) (d : Domain) :
    filters (.ofText (s ++ ".")) d = filters (.ofText s) d ∧
      filters (.ofText (s ++ ",")) d =
        if CommaHidesYear s then filtersBy otherRules (.ofText s) d else filters (.ofText s) d :=
  ⟨filters_append_fullStop s d, filters_append_comma s d⟩

/-- A comma behind a year hides it. -/
theorem filters_append_comma_transactions :
    (filters (.ofText "הוצאות בשנת 2024") Registry.transactions).get? "year" =
        some (.integer 2024) ∧
      (filters (.ofText ("הוצאות בשנת 2024" ++ ",")) Registry.transactions).get? "year" = none :=
  ⟨by rw [get?_filters]; decide, get?_filters_year_eq_none (by decide)⟩

end Filters

end CivicReport.Extraction
