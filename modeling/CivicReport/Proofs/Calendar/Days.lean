import CivicReport.Proofs.Calendar.Writing
import CivicReport.Proofs.Text.Trimming

/-!
Days and their one written form. Main statements: a day that is read is one of the calendar, and a
day of the calendar is read from its written form, which has no white space in it.
-/
namespace CivicReport

/-- A number in digits, at least so many: zeros stand in front only to make up that many. -/
structure IsPadded (width n : Nat) (s : List Char) : Prop where
  isDigit : ∀ c ∈ s, isAsciiDigit c = true
  value : readNat? s = some n
  width_le : width ≤ s.length
  minimal : width < s.length → 10 ^ (s.length - 1) ≤ n

theorem isPadded_paddedDigits {width : Nat} (hwidth : 0 < width) (n : Nat) :
    IsPadded width n (paddedDigits width n) := by
  have hlength : (paddedDigits width n).length =
      width - (Nat.toDigits 10 n).length + (Nat.toDigits 10 n).length := by
    rw [paddedDigits, List.length_append, List.length_replicate]
  refine ⟨fun c => isAsciiDigit_of_mem_paddedDigits, readNat?_paddedDigits, by omega, ?_⟩
  intro hlong
  -- nothing stands in front of the digits of the number, and it has no fewer of them
  have hdigits : (paddedDigits width n).length = (Nat.toDigits 10 n).length := by omega
  rw [hdigits] at hlong ⊢
  have hfewer : (Nat.toDigits 10 n).length ≤ (Nat.toDigits 10 n).length - 1 ↔
      n < 10 ^ ((Nat.toDigits 10 n).length - 1) :=
    Nat.length_toDigits_le_iff (by decide) (by omega)
  omega

namespace Text

variable {s : List Char}

theorem dropWhile_isBlank_eq_self (h : ∀ c ∈ s, isBlank c = false) : s.dropWhile isBlank = s := by
  cases s with
  | nil => rfl
  | cons c rest => simp [h c List.mem_cons_self]

theorem trim_eq_self (h : ∀ c ∈ s, isBlank c = false) : trim s = s := by
  have hreverse : ∀ c ∈ s.reverse, isBlank c = false := fun c hc => h c (List.mem_reverse.1 hc)
  rw [trim, trimLeft, dropWhile_isBlank_eq_self h, trimRight, dropWhile_isBlank_eq_self hreverse,
    List.reverse_reverse]

end Text

namespace Date

variable {d : Date} {s : List Char}

/-- Years outside of 0 to 9999 carry a sign. -/
def sign (year : Int) : List Char :=
  if year < 0 then ['-'] else if 9999 < year then ['+'] else []

/-- Year, month and day in digits, with hyphens between them. -/
def IsWritten (d : Date) (s : List Char) : Prop :=
  ∃ year month day, IsPadded 4 d.year.natAbs year ∧
    (IsPadded 2 d.month month ∧ month.length = 2) ∧ (IsPadded 2 d.day day ∧ day.length = 2) ∧
    s = sign d.year ++ year ++ '-' :: month ++ '-' :: day

theorem writeYear_eq (year : Int) : writeYear year = sign year ++ paddedDigits 4 year.natAbs := by
  unfold writeYear sign
  split
  · next hyear =>
    have hvalue : year.toNat = year.natAbs := by omega
    rw [if_neg (by omega), if_neg (by omega), hvalue, List.nil_append]
  · split
    · rfl
    · rw [if_pos (by omega)]
      rfl

theorem month_lt_of_exists (h : d.Exists) : d.month < 100 := by
  obtain ⟨-, -, -, hmonth, -⟩ := h
  omega

theorem day_lt_of_exists (h : d.Exists) : d.day < 100 := by
  have hdays := daysIn_le d.year d.month
  obtain ⟨-, -, -, -, -, hday⟩ := h
  omega

theorem isWritten_writeChars (h : d.Exists) : d.IsWritten d.writeChars := by
  have htwo {n : Nat} (hn : n < 100) : (paddedDigits 2 n).length = 2 :=
    length_paddedDigits (by decide) hn
  refine ⟨_, _, _, isPadded_paddedDigits (by decide) d.year.natAbs,
    ⟨isPadded_paddedDigits (by decide) d.month, htwo (month_lt_of_exists h)⟩,
    ⟨isPadded_paddedDigits (by decide) d.day, htwo (day_lt_of_exists h)⟩, ?_⟩
  rw [writeChars, writeYear_eq]

theorem isBlank_of_mem_writeChars {c : Char} (h : c ∈ d.writeChars) : Text.isBlank c = false := by
  have hmarks : Text.isBlank '-' = false ∧ Text.isBlank '+' = false := by decide
  have hsign : c ∈ sign d.year → Text.isBlank c = false := by
    unfold sign
    intro hc
    split at hc
    · rw [List.mem_singleton.1 hc]
      exact hmarks.1
    · split at hc
      · rw [List.mem_singleton.1 hc]
        exact hmarks.2
      · contradiction
  have hdigits {width n : Nat} (hc : c ∈ paddedDigits width n) : Text.isBlank c = false :=
    isBlank_of_isAsciiDigit (isAsciiDigit_of_mem_paddedDigits hc)
  rw [writeChars, writeYear_eq] at h
  simp only [List.mem_append, List.mem_cons] at h
  rcases h with ((hc | hc) | rfl | hc) | rfl | hc
  · exact hsign hc
  · exact hdigits hc
  · exact hmarks.1
  · exact hdigits hc
  · exact hmarks.1
  · exact hdigits hc

theorem take?_writeChars (h : d.Exists) (rest : List Char) :
    take? (d.writeChars ++ rest) = some (d, rest) := by
  have htext : d.writeChars ++ rest = writeYear d.year ++
      '-' :: (paddedDigits 2 d.month ++ '-' :: (paddedDigits 2 d.day ++ rest)) := by
    simp [writeChars]
  have hmark (s : List Char) : takeChar? '-' ('-' :: s) = some s := rfl
  have hchecked : checked? ⟨d.year, d.month, d.day⟩ = some d := if_pos h
  rw [take?, htext, takeYear?_writeYear]
  simp only [Option.bind_eq_bind, Option.bind_some, hmark,
    takePair?_paddedDigits (month_lt_of_exists h), takePair?_paddedDigits (day_lt_of_exists h),
    hchecked]
  rfl

theorem read?_writeChars (h : d.Exists) : read? d.writeChars = some d := by
  have htake := take?_writeChars h []
  rw [List.append_nil] at htake
  rw [read?, htake]
  rfl

theorem exists_of_checked? {e : Date} (h : checked? e = some d) : d.Exists := by
  unfold checked? at h
  split at h
  · next hexists =>
    cases h
    exact hexists
  · contradiction

/-- Only days of the calendar are read. -/
theorem exists_of_read? (h : read? s = some d) : d.Exists := by
  obtain ⟨⟨e, rest⟩, htake, hwhole⟩ := Option.bind_eq_some_iff.1 h
  have hd : e = d := by
    split at hwhole
    · exact Option.some.inj hwhole
    · contradiction
  subst hd
  simp only [take?, Option.bind_eq_bind, Option.bind_eq_some_iff] at htake
  obtain ⟨_, -, _, -, _, -, _, -, _, -, found, hfound, hpair⟩ := htake
  cases hpair
  exact exists_of_checked? hfound

end Date

end CivicReport
