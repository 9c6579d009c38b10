import CivicReport.Proofs.Decimal.Digits
import CivicReport.Report.Amount
import Mathlib.Data.List.TakeWhile

/-!
The whole part of an amount as it is shown. Main statement: without its commas it is the digits of
the whole number of units, and commas stand exactly where they mark off groups of three digits from
the end.
-/
namespace CivicReport.Amount

/-- The whole units that are shown of a double. -/
def units (x : Float) : Nat := wholeUInt64 (roundHundredths x.abs)

/-- What stands between a minus sign and a point, where there are any. -/
def wholeText (s : String) : List Char :=
  (if s.toList.head? = some '-' then s.toList.tail else s.toList).takeWhile (· ≠ '.')

def withoutCommas (text : List Char) : List Char := text.filter (· != ',')

@[simp] theorem withoutCommas_nil : withoutCommas [] = [] := rfl

@[simp] theorem withoutCommas_comma_cons (text : List Char) :
    withoutCommas (',' :: text) = withoutCommas text := rfl

theorem withoutCommas_cons {c : Char} (h : c ≠ ',') (text : List Char) :
    withoutCommas (c :: text) = c :: withoutCommas text :=
  List.filter_cons_of_pos (bne_iff_ne.2 h)

/-- A text of digits with commas that mark off groups of three from the end. -/
structure Groups (digits text : List Char) : Prop where
  withoutCommas_eq : withoutCommas text = digits
  head?_ne : text.head? ≠ some ','
  getLast?_ne : text.getLast? ≠ some ','
  of_comma : ∀ before after, text = before ++ ',' :: after →
    0 < after.countP isAsciiDigit ∧ 3 ∣ after.countP isAsciiDigit
  comma : ∀ before after, digits = before ++ after → before ≠ [] → after ≠ [] →
    3 ∣ after.length → ∃ front back, text = front ++ ',' :: back ∧
      withoutCommas front = before ∧ withoutCommas back = after

variable {digits : List Char}

theorem ne_comma_of_isAsciiDigit {c : Char} (h : isAsciiDigit c = true) : c ≠ ',' := by
  rintro rfl
  exact absurd h (by decide)

theorem grouped_eq_nil_iff : grouped digits = [] ↔ digits = [] := by
  cases digits with
  | nil => simp [grouped]
  | cons c rest =>
    rw [grouped]
    split <;> simp

theorem head?_grouped (digits : List Char) : (grouped digits).head? = digits.head? := by
  cases digits with
  | nil => rfl
  | cons c rest =>
    rw [grouped]
    split <;> rfl

theorem getLast?_grouped (digits : List Char) : (grouped digits).getLast? = digits.getLast? := by
  induction digits with
  | nil => rfl
  | cons c rest ih =>
    rw [grouped]
    split
    · next hcomma =>
      have hgrouped : grouped rest ≠ [] := mt grouped_eq_nil_iff.1 hcomma.1
      rw [List.getLast?_cons_of_ne_nil (List.cons_ne_nil _ _), List.getLast?_cons_of_ne_nil hgrouped,
        List.getLast?_cons_of_ne_nil hcomma.1, ih]
    · rw [List.getLast?_cons, List.getLast?_cons, ih]

theorem withoutCommas_grouped (h : ∀ c ∈ digits, isAsciiDigit c = true) :
    withoutCommas (grouped digits) = digits := by
  induction digits with
  | nil => rfl
  | cons c rest ih =>
    obtain ⟨hc, hrest⟩ := List.forall_mem_cons.1 h
    have hne : c ≠ ',' := ne_comma_of_isAsciiDigit hc
    rw [grouped]
    split <;> simp [withoutCommas_cons hne, ih hrest]

theorem countP_grouped (h : ∀ c ∈ digits, isAsciiDigit c = true) :
    (grouped digits).countP isAsciiDigit = digits.length := by
  have hcommas : (grouped digits).countP isAsciiDigit =
      (withoutCommas (grouped digits)).countP isAsciiDigit := by
    rw [withoutCommas, List.countP_filter]
    refine List.countP_congr fun c _ => ?_
    simpa using ne_comma_of_isAsciiDigit
  rw [hcommas, withoutCommas_grouped h, List.countP_eq_length.2 h]

/-- Behind a comma stand whole groups. -/
theorem countP_of_comma_mem (h : ∀ c ∈ digits, isAsciiDigit c = true) {before after : List Char}
    (hcomma : grouped digits = before ++ ',' :: after) :
    0 < after.countP isAsciiDigit ∧ 3 ∣ after.countP isAsciiDigit := by
  induction digits generalizing before with
  | nil => simp [grouped] at hcomma
  | cons c rest ih =>
    obtain ⟨hc, hrest⟩ := List.forall_mem_cons.1 h
    have hne : c ≠ ',' := ne_comma_of_isAsciiDigit hc
    rw [grouped] at hcomma
    cases before with
    | nil =>
      split at hcomma
      · exact absurd (List.cons.inj hcomma).1 hne
      · exact absurd (List.cons.inj hcomma).1 hne
    | cons first before =>
      split at hcomma
      · next hgroup =>
        have htail : ',' :: grouped rest = before ++ ',' :: after := (List.cons.inj hcomma).2
        cases before with
        | nil =>
          obtain rfl : grouped rest = after := (List.cons.inj htail).2
          rw [countP_grouped hrest]
          exact ⟨List.length_pos_iff.2 hgroup.1, Nat.dvd_of_mod_eq_zero hgroup.2⟩
        | cons second before => exact ih hrest (List.cons.inj htail).2
      · exact ih hrest (List.cons.inj hcomma).2

/-- Before whole groups there is a comma, unless nothing stands before it. -/
theorem exists_grouped_append {before after : List Char}
    (h : ∀ c ∈ before, isAsciiDigit c = true) (hbefore : before ≠ []) (hafter : after ≠ [])
    (hgroups : 3 ∣ after.length) : ∃ front,
      grouped (before ++ after) = front ++ ',' :: grouped after ∧
        withoutCommas front = before := by
  induction before with
  | nil => exact absurd rfl hbefore
  | cons c rest ih =>
    obtain ⟨hc, hrest⟩ := List.forall_mem_cons.1 h
    have hne : c ≠ ',' := ne_comma_of_isAsciiDigit hc
    rw [List.cons_append, grouped]
    by_cases hlast : rest = []
    · subst hlast
      have hgroup : after ≠ [] ∧ after.length % 3 = 0 := ⟨hafter, Nat.mod_eq_zero_of_dvd hgroups⟩
      rw [List.nil_append, if_pos hgroup]
      exact ⟨[c], rfl, by simp [withoutCommas_cons hne]⟩
    · obtain ⟨front, htext, hdigits⟩ := ih hrest hlast
      rw [htext]
      split
      · exact ⟨c :: ',' :: front, rfl, by simp [withoutCommas_cons hne, hdigits]⟩
      · exact ⟨c :: front, rfl, by simp [withoutCommas_cons hne, hdigits]⟩

theorem groups_grouped (h : ∀ c ∈ digits, isAsciiDigit c = true) :
    Groups digits (grouped digits) where
  withoutCommas_eq := withoutCommas_grouped h
  head?_ne := by
    rw [head?_grouped]
    exact fun hhead => ne_comma_of_isAsciiDigit (h ',' (List.mem_of_mem_head? hhead)) rfl
  getLast?_ne := by
    rw [getLast?_grouped]
    exact fun hlast => ne_comma_of_isAsciiDigit (h ',' (List.mem_of_mem_getLast? hlast)) rfl
  of_comma _ _ := countP_of_comma_mem h
  comma before after hdigits hbefore hafter hgroups := by
    subst hdigits
    obtain ⟨hfront, hback⟩ := List.forall_mem_append.1 h
    obtain ⟨front, htext, hdigits⟩ := exists_grouped_append hfront hbefore hafter hgroups
    exact ⟨front, grouped after, htext, hdigits, withoutCommas_grouped hback⟩

theorem mem_grouped {c : Char} (h : c ∈ grouped digits) : c ∈ digits ∨ c = ',' := by
  induction digits with
  | nil => exact absurd h List.not_mem_nil
  | cons first rest ih =>
    rw [grouped] at h
    split at h <;> grind

/-- The sign and the cents stand around the whole part. -/
theorem exists_write_eq (x : Float) : ∃ fraction : List Char,
    (write x).toList = (if x < 0.0 then ['-'] else []) ++
      (grouped (Nat.toDigits 10 (units x)) ++ fraction) ∧
      (fraction = [] ∨ ∃ cents, fraction = '.' :: twoDigits cents) := by
  refine ⟨_, by rw [write, String.toList_ofList, List.append_assoc]; rfl, ?_⟩
  split
  · exact .inl rfl
  · exact .inr ⟨_, rfl⟩

theorem wholeText_write (x : Float) : wholeText (write x) = grouped (Nat.toDigits 10 (units x)) := by
  obtain ⟨fraction, htext, hfraction⟩ := exists_write_eq x
  have hdigit : ∀ c ∈ grouped (Nat.toDigits 10 (units x)), isAsciiDigit c = true ∨ c = ',' :=
    fun c hc => (mem_grouped hc).imp_left isAsciiDigit_of_mem_toDigits
  have hsign : (grouped (Nat.toDigits 10 (units x)) ++ fraction).head? ≠ some '-' := by
    intro hhead
    cases hwhole : grouped (Nat.toDigits 10 (units x)) with
    | nil => exact Nat.toDigits_ne_nil (grouped_eq_nil_iff.1 hwhole)
    | cons first rest =>
      obtain rfl : first = '-' := by simpa [hwhole] using hhead
      exact absurd (hdigit '-' (hwhole ▸ List.mem_cons_self)) (by decide)
  have hunsigned : wholeText (write x) =
      (grouped (Nat.toDigits 10 (units x)) ++ fraction).takeWhile (· ≠ '.') := by
    rw [wholeText, htext]
    split
    · rfl
    · rw [List.nil_append, if_neg hsign]
  have hpoint : ∀ c ∈ grouped (Nat.toDigits 10 (units x)), decide (c ≠ '.') = true := by
    intro c hc
    rw [decide_eq_true_iff]
    rintro rfl
    exact absurd (hdigit '.' hc) (by decide)
  rw [hunsigned, List.takeWhile_append_of_pos hpoint]
  obtain rfl | ⟨cents, rfl⟩ := hfraction
  · exact List.append_nil _
  · exact List.append_nil _

/-- The whole part of an amount shows the digits of its units in groups of three. -/
theorem groups_wholeText_write (x : Float) :
    Groups (Nat.toDigits 10 (units x)) (wholeText (write x)) := by
  rw [wholeText_write]
  exact groups_grouped fun c hc => isAsciiDigit_of_mem_toDigits hc

end CivicReport.Amount
