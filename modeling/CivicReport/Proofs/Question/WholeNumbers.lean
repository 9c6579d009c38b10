import CivicReport.Registry.Municipal
import CivicReport.Proofs.Pattern.Preference
import CivicReport.Proofs.Question.Punctuation
import Mathlib.Data.List.Infix

/-!
Whether the numbers of orders and projects are read whole. What is attached to a word is taken
first, and as much of it as leaves a number behind, so that a number attached to its word is cut.
Main statements: the number of an order or a project goes on to its last digit, and it begins with
its first one unless it is attached to the word; then four digits are left of an order and one of a
project, which counts as a number only if its encoding has three or four bytes.
-/
namespace CivicReport.Extraction

open Pattern

/-- Digits in a text, up to where they end. -/
structure NumberAt (s before digits after : List Char) : Prop where
  split : s = before ++ (digits ++ after)
  ne_nil : digits ≠ []
  digits : ∀ c ∈ digits, Text.isDigit c = true
  after : ∀ c ∈ after.head?, Text.isDigit c = false

/-- Digits in a text, with no digit on either side. -/
structure WholeNumber (s before digits after : List Char) : Prop
    extends NumberAt s before digits after where
  before : ∀ c ∈ before.getLast?, Text.isDigit c = false

/-- Some digits are a whole number of a text. -/
def HasWholeNumber (s digits : List Char) : Prop := ∃ before after, WholeNumber s before digits after

section Decidable

variable {s before digits after : List Char}

instance : Decidable (NumberAt s before digits after) :=
  decidable_of_iff (s = before ++ (digits ++ after) ∧ digits ≠ [] ∧
      (∀ c ∈ digits, Text.isDigit c = true) ∧ ∀ c ∈ after.head?, Text.isDigit c = false)
    ⟨fun h => ⟨h.1, h.2.1, h.2.2.1, h.2.2.2⟩, fun h => ⟨h.split, h.ne_nil, h.digits, h.after⟩⟩

instance : Decidable (WholeNumber s before digits after) :=
  decidable_of_iff (NumberAt s before digits after ∧ ∀ c ∈ before.getLast?, Text.isDigit c = false)
    ⟨fun h => ⟨h.1, h.2⟩, fun h => ⟨h.toNumberAt, h.before⟩⟩

theorem hasWholeNumber_iff : HasWholeNumber s digits ↔
    ∃ before ∈ s.inits, ∃ after ∈ s.tails, WholeNumber s before digits after := by
  constructor
  · rintro ⟨before, after, h⟩
    have hafter : (before ++ digits) ++ after = s := by rw [h.split, List.append_assoc]
    exact ⟨before, (List.mem_inits _ _).2 ⟨_, h.split.symm⟩, after,
      (List.mem_tails _ _).2 ⟨_, hafter⟩, h⟩
  · rintro ⟨before, -, after, -, h⟩
    exact ⟨before, after, h⟩

instance : Decidable (HasWholeNumber s digits) := decidable_of_iff _ hasWholeNumber_iff.symm

end Decidable

/-- A text ends in a digit that no blank separates from one of some words. -/
def AttachedTo (words : List String) (before : List Char) : Prop :=
  ∃ word ∈ words, ∃ front x c, (∀ y ∈ x, Text.isBlank y = false) ∧ Text.isDigit c = true ∧
    before = front ++ (word.toList ++ (x ++ [c]))

section Blocks

variable {p k : Pattern Part} {a w b : List Char} {caps : List (Capture Part)}

/-- A pattern can take nothing. -/
def Skips (p : Pattern Part) : Prop := ∀ a b, p.Takes a [] b []

theorem skips_maybe : Skips (maybe p) := fun _ _ => .inr ⟨rfl, rfl⟩

theorem skips_blanks : Skips blanks := by
  intro a b
  simp [takes_blanks_iff]

theorem Skips.takes_seq (hp : Skips p) (h : k.Takes a w b caps) : (seq p k).Takes a w b caps :=
  ⟨[], w, [], caps, rfl, rfl, hp a (w ++ b), by simpa using h⟩

/-- A pattern takes no digits and captures nothing. -/
def Digitless (p : Pattern Part) : Prop :=
  ∀ a w b caps, p.Takes a w b caps → (∀ c ∈ w, Text.isDigit c = false) ∧ caps = []

theorem digitless_blanks : Digitless blanks := by
  intro a w b caps h
  obtain ⟨hw, rfl⟩ := takes_blanks_iff.1 h
  exact ⟨fun c hc => Text.isDigit_eq_false_of_isBlank (hw c hc), rfl⟩

theorem digitless_text {s : String} (hs : ∀ c ∈ s.toList, Text.isDigit c = false) :
    Digitless (text s) := by
  intro a w b caps h
  obtain ⟨rfl, rfl⟩ := takes_text_iff.1 h
  exact ⟨hs, rfl⟩

theorem Digitless.seq (hp : Digitless p) (hk : Digitless k) : Digitless (.seq p k) := by
  rintro a w b caps ⟨w₁, w₂, caps₁, caps₂, rfl, rfl, h₁, h₂⟩
  obtain ⟨hw₁, rfl⟩ := hp _ _ _ _ h₁
  obtain ⟨hw₂, rfl⟩ := hk _ _ _ _ h₂
  exact ⟨List.forall_mem_append.2 ⟨hw₁, hw₂⟩, rfl⟩

theorem Digitless.maybe (hp : Digitless p) : Digitless (.maybe p) := by
  rintro a w b caps (h | ⟨rfl, rfl⟩)
  · exact hp _ _ _ _ h
  · exact ⟨List.forall_mem_nil _, rfl⟩

theorem digitless_numberMark : Digitless numberMark := by
  refine .maybe (.seq (digitless_text ?_) (.seq (.maybe (digitless_text ?_))
    (.seq (.maybe (digitless_text ?_)) digitless_blanks))) <;> decide

end Blocks

section Behind

variable {p k : Pattern Part} {Number : List Char → Prop} {words : List String}
  {a r : List Char} {m : PatternMatch Part}

/-- A pattern reads an opening without digits and then a number up to its last digit, and captures
the number. -/
def FindsNumber (k : Pattern Part) (Number : List Char → Prop) : Prop :=
  ∀ a r w caps, (k.readings a r).head? = some (w, caps) → ∃ opening num rest,
    r = opening ++ (num ++ rest) ∧ (∀ c ∈ opening, Text.isDigit c = false) ∧ Number num ∧
    (∀ c ∈ rest.head?, Text.isDigit c = false) ∧
    caps.find? (·.label == .number) = some ⟨.number, (a ++ opening).length, num⟩

theorem FindsNumber.seq (hp : Digitless p) (hk : FindsNumber k Number) :
    FindsNumber (.seq p k) Number := by
  intro a r w caps h
  obtain ⟨w₁, w₂, r, _, caps, rfl, rfl, rfl, htakes, hnumber⟩ :=
    exists_takes_of_head?_readings_seq h
  obtain ⟨hw₁, rfl⟩ := hp _ _ _ _ htakes
  obtain ⟨opening, num, rest, rfl, hopening, hnum, hrest, hcapture⟩ := hk _ _ _ _ hnumber
  exact ⟨w₁ ++ opening, num, rest, by simp, List.forall_mem_append.2 ⟨hw₁, hopening⟩, hnum, hrest,
    by simpa using hcapture⟩

/-- A number behind a word follows no digit, unless it is attached to the word; then it could not
be read without its first digit. -/
theorem FindsNumber.of_matchAt? (hk : FindsNumber k Number)
    (hwords : ∀ t ∈ words, t.toList ≠ [] ∧ ∀ c ∈ t.toList, Text.isDigit c = false)
    (h : (Pattern.seq (anyText words) (.seq nonBlanks k)).matchAt? (.between a r) = some m) :
    ∃ before num rest, a ++ r = before ++ (num ++ rest) ∧ Number num ∧
      (∀ c ∈ rest.head?, Text.isDigit c = false) ∧
      m.capture? .number = some ⟨.number, before.length, num⟩ ∧
      ((∀ c ∈ before.getLast?, Text.isDigit c = false) ∨ AttachedTo words before ∧
        ∀ c num', num = c :: num' → Text.isDigit c = true →
          k.readings (before ++ [c]) (num' ++ rest) = []) := by
  obtain ⟨w, caps, hhead, rfl⟩ := matchAt?_eq_some_iff.1 h
  obtain ⟨_, _, r, _, _, rfl, rfl, rfl, htakes, htail⟩ := exists_takes_of_head?_readings_seq hhead
  obtain ⟨⟨word, hword, rfl⟩, rfl⟩ := takes_anyText_iff.1 htakes
  obtain ⟨x, r, _, rfl, rfl, hx, hnumber, hlonger⟩ := exists_longest_run htail
  obtain ⟨opening, num, rest, rfl, hopening, hnum, hrest, hcapture⟩ := hk _ _ _ _ hnumber
  refine ⟨a ++ (word.toList ++ (x ++ opening)), num, rest, by simp, hnum, hrest, ?_, ?_⟩
  · simpa [PatternMatch.capture?] using hcapture
  -- The last character in front of the number is one of the opening, or of what is attached to the
  -- word, or of the word.
  rcases List.eq_nil_or_concat opening with rfl | ⟨opening, c, rfl⟩
  · rcases List.eq_nil_or_concat x with rfl | ⟨x, c, rfl⟩
    · left
      obtain ⟨hne, hplain⟩ := hwords word hword
      intro c hc
      rw [List.append_nil, List.append_nil, List.getLast?_append_of_ne_nil _ hne] at hc
      exact hplain c (List.mem_of_getLast? hc)
    · rw [List.concat_eq_append] at hx hlonger ⊢
      cases hdigit : Text.isDigit c with
      | false =>
        left
        simpa [← List.append_assoc] using hdigit
      | true =>
        right
        refine ⟨⟨word, hword, a, x, c, ?_, hdigit, by simp⟩, ?_⟩
        · intro y hy
          simpa using hx y (List.mem_append_left _ hy)
        · rintro first num' rfl hfirst
          have hnone := hlonger [first] (num' ++ rest) (by simp) (by simp)
            (by simpa using Text.isBlank_eq_false_of_isDigit hfirst) ⟨Nat.zero_le _, by simp⟩
          simpa using hnone
  · left
    have hdigit := hopening c (by simp)
    simpa [← List.append_assoc] using hdigit

end Behind

section Orders

variable {q : Question} {d : Domain} {key : String} {value : Scalar} {a num rest : List Char}

/-- Everything behind what is attached to a word for an order. -/
def orderTail : Pattern Part :=
  chain [blanks, maybe (seq (text "רכש") blanks), numberMark, maybe (text "#"), blanks, orderDigits,
    either (.class (!Text.isDigit ·)) finish]

theorem orderNumber_eq_seq : orderNumber =
    seq (anyText orderWords) (seq nonBlanks orderTail) := rfl

/-- Four to ten digits. -/
structure IsOrder (num : List Char) : Prop where
  digits : ∀ c ∈ num, Text.isDigit c = true
  least : 4 ≤ num.length
  most : num.length ≤ 10

theorem findsNumber_orderDigits :
    FindsNumber (seq orderDigits (either (.class (!Text.isDigit ·)) finish)) IsOrder := by
  intro a r w caps h
  obtain ⟨b, rfl, htakes⟩ := mem_readings_iff.1 (List.mem_of_head? h)
  simp only [orderDigits, takes_seq_iff, takes_group_iff, takes_ending_iff, digits,
    takes_run_iff] at htakes
  obtain ⟨num, ending, _, _, rfl, rfl, ⟨_, rfl, hnum, ⟨hleast, hmost⟩, rfl⟩, hending, rfl⟩ := htakes
  refine ⟨[], num, ending ++ b, by simp, List.forall_mem_nil _, ⟨hnum, hleast, hmost 10 rfl⟩, ?_,
    by simp⟩
  rcases hending with ⟨x, hx, rfl⟩ | ⟨rfl, rfl⟩
  · simpa using hx
  · simp

theorem findsNumber_orderTail : FindsNumber orderTail IsOrder :=
  .seq digitless_blanks (.seq (.maybe (.seq (digitless_text (by decide)) digitless_blanks))
    (.seq digitless_numberMark (.seq (.maybe (digitless_text (by decide)))
      (.seq digitless_blanks findsNumber_orderDigits))))

/-- The number of an order can be read where its digits begin. -/
theorem IsOrder.readings_ne_nil (h : IsOrder num)
    (hrest : ∀ c ∈ rest.head?, Text.isDigit c = false) :
    orderTail.readings a (num ++ rest) ≠ [] := by
  obtain ⟨ending, b, rfl, hending⟩ : ∃ ending b, rest = ending ++ b ∧
      Ends Text.isDigit ending b := by
    cases rest with
    | nil => exact ⟨[], [], rfl, .inr ⟨rfl, rfl⟩⟩
    | cons c rest => exact ⟨[c], rest, rfl, .inl ⟨c, hrest c rfl, rfl⟩⟩
  have htakes : orderTail.Takes a (num ++ ending) b [⟨.number, a.length, num⟩] := by
    refine skips_blanks.takes_seq (skips_maybe.takes_seq (skips_maybe.takes_seq
      (skips_maybe.takes_seq (skips_blanks.takes_seq ?_))))
    refine ⟨num, ending, [⟨.number, a.length, num⟩], [], rfl, rfl, ⟨[], rfl, ?_⟩,
      takes_ending_iff.2 ⟨hending, rfl⟩⟩
    exact ⟨h.digits, ⟨h.least, by simpa using h.most⟩, rfl⟩
  rw [← List.append_assoc]
  exact htakes.readings_ne_nil

/-- The number of an order goes on to its last digit. It begins with its first one, unless it is
attached to its word, and then its last four digits are read. -/
theorem numberAt_of_order? (h : order? q d = some (key, value)) :
    key = "order_number" ∧ ∃ before digits after, value = .text (String.ofList digits) ∧
      NumberAt q.folded before digits after ∧ 4 ≤ digits.length ∧ digits.length ≤ 10 ∧
      (WholeNumber q.folded before digits after ∨
        digits.length = 4 ∧ AttachedTo orderWords before) := by
  obtain ⟨m, hm, hc⟩ := Option.bind_eq_some_iff.1 h
  obtain ⟨c, hcapture, hfound⟩ := Option.map_eq_some_iff.1 hc
  obtain ⟨hkey, hvalue⟩ := Prod.mk.inj hfound
  obtain ⟨a, r, hs, hmatch⟩ := exists_place_of_mem_allMatches (mem_allMatches_of_find? hm)
  rw [orderNumber_eq_seq] at hmatch
  obtain ⟨before, num, rest, hsplit, hnum, hrest, hnumber, hbefore⟩ :=
    findsNumber_orderTail.of_matchAt? (by decide) hmatch
  rw [hcapture] at hnumber
  obtain rfl := Option.some.inj hnumber
  have hne : num ≠ [] := List.ne_nil_of_length_pos (Nat.lt_of_lt_of_le (by decide) hnum.least)
  have hat : NumberAt q.folded before num rest :=
    ⟨hs.symm.trans hsplit, hne, hnum.digits, hrest⟩
  refine ⟨hkey.symm, before, num, rest, hvalue.symm, hat, hnum.least, hnum.most, ?_⟩
  rcases hbefore with hbefore | ⟨hattached, hlater⟩
  · exact .inl ⟨hat, hbefore⟩
  right
  refine ⟨?_, hattached⟩
  -- A fifth digit would have been left to what is attached to the word.
  by_contra hlength
  obtain ⟨hdigits, hleast, hmost⟩ := hnum
  cases num with
  | nil => contradiction
  | cons x num =>
    rw [List.length_cons] at hlength hleast hmost
    have hshorter : IsOrder num :=
      ⟨fun c hc => hdigits c (List.mem_cons_of_mem _ hc), by omega, by omega⟩
    exact hshorter.readings_ne_nil hrest (hlater x num rfl (hdigits x List.mem_cons_self))

theorem numberAt_of_order?_purchase :
    let q := Question.ofText "חשבוניות של הזמנת רכש 45001234"
    order? q Registry.transactions = some ("order_number", .text "45001234") ∧
      ∃ before digits after, Scalar.text "45001234" = .text (String.ofList digits) ∧
        NumberAt q.folded before digits after ∧ 4 ≤ digits.length ∧ digits.length ≤ 10 ∧
        (WholeNumber q.folded before digits after ∨
          digits.length = 4 ∧ AttachedTo orderWords before) := by
  intro q
  have hfound : order? q Registry.transactions = some ("order_number", .text "45001234") := by
    decide
  exact ⟨hfound, (numberAt_of_order? hfound).2⟩

/-- The first four digits are taken as attached to the word. -/
theorem order?_attached :
    order? (.ofText "חשבוניות הזמנה#45001234") Registry.transactions =
        some ("order_number", .text "1234") ∧
      ¬ HasWholeNumber (Question.ofText "חשבוניות הזמנה#45001234").folded "1234".toList ∧
      HasWholeNumber (Question.ofText "חשבוניות הזמנה#45001234").folded "45001234".toList := by
  have hfolded : (Question.ofText "חשבוניות הזמנה#45001234").folded =
      "חשבוניות הזמנה#45001234".toList := by decide
  rw [hfolded]
  exact ⟨by decide, by decide, by decide⟩

end Orders

section Projects

variable {q : Question} {d : Domain} {key : String} {value : Scalar} {a s num rest : List Char}

/-- Everything behind what is attached to a word for a project. -/
def projectTail : Pattern Part :=
  chain [blanks, numberMark, maybe (text "#"), projectDigits]

theorem projectNumber_eq_seq : projectNumber =
    seq (anyText projectWords) (seq nonBlanks projectTail) := rfl

theorem findsNumber_projectDigits : FindsNumber projectDigits IsGrouped := by
  intro a r w caps h
  obtain ⟨b, rfl, inner, rfl, htakes⟩ := mem_readings_iff.1 (List.mem_of_head? h)
  obtain ⟨hnum, rfl⟩ := takes_groupedDigits_iff.1 htakes
  refine ⟨[], w, b, rfl, List.forall_mem_nil _, hnum, ?_, by simp⟩
  intro c hc
  have hexhausts := exhausts_run.seq.group a w b _ h c hc
  exact (Bool.or_eq_false_iff.1 hexhausts).1

theorem findsNumber_projectTail : FindsNumber projectTail IsGrouped :=
  .seq digitless_blanks (.seq digitless_numberMark (.seq (.maybe (digitless_text (by decide)))
    findsNumber_projectDigits))

/-- The number of a project can be read where its digits begin. -/
theorem IsGrouped.readings_ne_nil (h : IsGrouped num) :
    projectTail.readings a (num ++ rest) ≠ [] := by
  have htakes : projectTail.Takes a num rest [⟨.number, a.length, num⟩] := by
    refine skips_blanks.takes_seq (skips_maybe.takes_seq (skips_maybe.takes_seq ?_))
    exact ⟨[], rfl, takes_groupedDigits_iff.2 ⟨h, rfl⟩⟩
  exact htakes.readings_ne_nil

/-- What is taken off the end of a number are commas and full stops. -/
theorem exists_withoutEndMarks_append (s : List Char) :
    ∃ marks, s = withoutEndMarks s ++ marks ∧ ∀ c ∈ marks, Question.isDigitSeparator c = true := by
  refine ⟨(s.reverse.takeWhile Question.isDigitSeparator).reverse, ?_, ?_⟩
  · rw [withoutEndMarks, Text.stripRight, ← List.reverse_append, List.takeWhile_append_dropWhile,
      List.reverse_reverse]
  · intro c hc
    exact List.all_eq_true.1 List.all_takeWhile c (List.mem_reverse.1 hc)

theorem isDigit_of_isDigitSeparator {c : Char} (h : Question.isDigitSeparator c = true) :
    Text.isDigit c = false := by
  rcases Bool.or_eq_true_iff.1 h with h | h <;> obtain rfl := beq_iff_eq.1 h <;> decide

theorem IsGrouped.isDigit_or_comma (h : IsGrouped num) {c : Char} (hc : c ∈ num) :
    Text.isDigit c = true ∨ c = ',' := by
  obtain ⟨first, tail, rfl, hfirst, htail⟩ := h
  rcases List.mem_cons.1 hc with rfl | hc
  · exact .inl hfirst
  · simpa [isDigitOrComma] using htail c hc

theorem IsGrouped.of_cons {x y : Char} (h : IsGrouped (x :: y :: num))
    (hy : Text.isDigit y = true) : IsGrouped (y :: num) := by
  obtain ⟨_, tail, heq, -, htail⟩ := h
  obtain ⟨rfl, rfl⟩ := List.cons_eq_cons.1 heq
  exact ⟨y, num, rfl, hy, fun c hc => htail c (List.mem_cons_of_mem _ hc)⟩

/-- The encoding of an ASCII digit is one byte. -/
theorem IsAscii.utf8Length_eq (h : IsAscii num) : Text.utf8Length num = num.length := by
  have hsize : ∀ c ∈ num, c.utf8Size = 1 := by
    intro c hc
    have hdigit := h c hc
    rw [isAsciiDigit_eq] at hdigit
    simp only [Char.isDigit, UInt32.le_iff_toNat_le, Bool.and_eq_true, decide_eq_true_eq] at hdigit
    rw [Char.utf8Size_eq_one_iff, UInt32.le_iff_toNat_le]
    exact Nat.le_trans hdigit.2 (by decide)
  rw [Text.utf8Length, List.foldl_ext _ (fun n _ => n + 1) 0 fun n c hc => by rw [hsize c hc],
    List.foldl_add_const, Nat.zero_add, Nat.one_mul]

/-- Where the number behind a word for a project stands. -/
theorem numberAt_of_mem_numbers {c : Capture Part} (h : c ∈ numbers projectNumber s)
    (hcomma : ',' ∉ withoutEndMarks c.text) (hne : withoutEndMarks c.text ≠ []) :
    ∃ before after, NumberAt s before (withoutEndMarks c.text) after ∧
      (WholeNumber s before (withoutEndMarks c.text) after ∨
        (withoutEndMarks c.text).length = 1 ∧ AttachedTo projectWords before) := by
  obtain ⟨m, hm, hcapture⟩ := mem_numbers_iff.1 h
  obtain ⟨a, r, rfl, hmatch⟩ := exists_place_of_mem_allMatches hm
  rw [projectNumber_eq_seq] at hmatch
  obtain ⟨before, num, rest, hsplit, hnum, hrest, hnumber, hbefore⟩ :=
    findsNumber_projectTail.of_matchAt? (by decide) hmatch
  rw [hcapture] at hnumber
  obtain rfl := Option.some.inj hnumber
  obtain ⟨marks, hmarks, hseparators⟩ := exists_withoutEndMarks_append num
  generalize withoutEndMarks num = ds at hcomma hne hmarks ⊢
  subst hmarks
  have hdigits : ∀ c ∈ ds, Text.isDigit c = true := by
    intro c hc
    refine (hnum.isDigit_or_comma (List.mem_append_left _ hc)).resolve_right ?_
    rintro rfl
    exact hcomma hc
  have hafter : ∀ c ∈ (marks ++ rest).head?, Text.isDigit c = false := by
    cases marks with
    | nil => exact hrest
    | cons mark marks =>
      rintro c ⟨⟩
      exact isDigit_of_isDigitSeparator (hseparators mark List.mem_cons_self)
  have hat : NumberAt (a ++ r) before ds (marks ++ rest) :=
    ⟨by rw [hsplit, List.append_assoc], hne, hdigits, hafter⟩
  refine ⟨before, marks ++ rest, hat, ?_⟩
  rcases hbefore with hbefore | ⟨hattached, hlater⟩
  · exact .inl ⟨hat, hbefore⟩
  right
  refine ⟨?_, hattached⟩
  -- A second digit would have been the first of the number.
  cases ds with
  | nil => contradiction
  | cons first ds =>
    cases ds with
    | nil => rfl
    | cons second ds =>
      have hshorter : IsGrouped (second :: (ds ++ marks)) := hnum.of_cons (hdigits second (by simp))
      have hnone := hlater first _ rfl (hdigits first List.mem_cons_self)
      exact absurd hnone hshorter.readings_ne_nil

/-- The number of a project goes on to its last digit. It begins with its first one, unless it is
attached to its word, and then its last digit is read if its encoding is long enough. In ASCII the
number is whole, and has three or four digits. -/
theorem numberAt_of_project? (h : project? q d = some (key, value)) :
    key = "tabar_number" ∧ ∃ before digits after, value = .text (String.ofList digits) ∧
      NumberAt q.folded before digits after ∧
      3 ≤ Text.utf8Length digits ∧ Text.utf8Length digits ≤ 4 ∧
      (WholeNumber q.folded before digits after ∨
        digits.length = 1 ∧ AttachedTo projectWords before) ∧
      (IsAscii digits → WholeNumber q.folded before digits after ∧
        (digits.length = 3 ∨ digits.length = 4)) := by
  obtain ⟨ds, hds, hfound⟩ := Option.map_eq_some_iff.1 h
  obtain ⟨hkey, hvalue⟩ := Prod.mk.inj hfound
  obtain ⟨c, hc, rfl⟩ := List.mem_map.1 (List.mem_of_find?_eq_some hds)
  have hproject := List.find?_some hds
  simp only [Bool.and_eq_true, Bool.not_eq_true', decide_eq_true_eq, List.contains_eq_mem,
    decide_eq_false_iff_not] at hproject
  obtain ⟨⟨hcomma, hleast⟩, hmost⟩ := hproject
  have hne : withoutEndMarks c.text ≠ [] := by
    intro hnil
    rw [hnil] at hleast
    contradiction
  obtain ⟨before, after, hat, hwhole⟩ := numberAt_of_mem_numbers hc hcomma hne
  refine ⟨hkey.symm, before, _, after, hvalue.symm, hat, hleast, hmost, hwhole, ?_⟩
  intro hascii
  rw [hascii.utf8Length_eq] at hleast hmost
  refine ⟨hwhole.resolve_right fun hattached => ?_, by omega⟩
  omega

theorem numberAt_of_project?_gershayim :
    let q := Question.ofText "הצג תב״ר מספר 2211"
    project? q Registry.projects = some ("tabar_number", .text "2211") ∧
      ∃ before digits after, Scalar.text "2211" = .text (String.ofList digits) ∧
        NumberAt q.folded before digits after ∧
        3 ≤ Text.utf8Length digits ∧ Text.utf8Length digits ≤ 4 ∧
        (WholeNumber q.folded before digits after ∨
          digits.length = 1 ∧ AttachedTo projectWords before) ∧
        (IsAscii digits → WholeNumber q.folded before digits after ∧
          (digits.length = 3 ∨ digits.length = 4)) := by
  intro q
  have hfound : project? q Registry.projects = some ("tabar_number", .text "2211") := by decide
  exact ⟨hfound, (numberAt_of_project? hfound).2⟩

/-- Two digits of two bytes count as a number of a project. -/
theorem project?_twoDigits :
    project? (.ofText "פרויקט ١٢") Registry.projects = some ("tabar_number", .text "١٢") ∧
      HasWholeNumber (Question.ofText "פרויקט ١٢").folded "١٢".toList ∧ "١٢".toList.length = 2 :=
  ⟨by decide, by decide, by decide⟩

-- Of a number attached to its word, one digit of three bytes is read.
example : project? (.ofText "project12१") Registry.projects = some ("tabar_number", .text "१") := by
  decide

end Projects

end CivicReport.Extraction
