import CivicReport.Calendar.Timestamp
import CivicReport.Proofs.Decimal.Digits
import Mathlib.Data.Nat.Digits.Defs
import Mathlib.Tactic.Common

/-!
Days and points in time, read back from how they are written. Each reader takes the text that its
writer made off the front of any longer text, and leaves what follows. Main statement: a point in
time is read from its text as it was, but a leap second that does not end a minute counts as the
second after.
-/
namespace CivicReport

/-! Numbers with zeros in front. -/

variable {width n : Nat}

theorem isAsciiDigit_of_mem_paddedDigits {c : Char} (h : c ∈ paddedDigits width n) :
    isAsciiDigit c = true := by
  obtain hzero | hdigit := List.mem_append.1 h
  · obtain ⟨-, rfl⟩ := List.mem_replicate.1 hzero
    rfl
  · exact isAsciiDigit_of_mem_toDigits hdigit

theorem paddedDigits_ne_nil : paddedDigits width n ≠ [] := by
  simp [paddedDigits, Nat.toDigits_ne_nil]

theorem ofDigitChars_zeros (zeros : Nat) (s : List Char) :
    Nat.ofDigitChars 10 (List.replicate zeros '0' ++ s) 0 = Nat.ofDigitChars 10 s 0 := by
  induction zeros with
  | zero => rfl
  | succ zeros ih =>
    rw [List.replicate_succ, List.cons_append, Nat.ofDigitChars_cons]
    exact ih

theorem readNat?_paddedDigits : readNat? (paddedDigits width n) = some n := by
  rw [readNat?_of_forall_isAsciiDigit paddedDigits_ne_nil
    fun c h => isAsciiDigit_of_mem_paddedDigits h, paddedDigits, ofDigitChars_zeros,
    Nat.ofDigitChars_ten_toDigits]

theorem length_paddedDigits (hwidth : 0 < width) (h : n < 10 ^ width) :
    (paddedDigits width n).length = width := by
  have hlength : (Nat.toDigits 10 n).length ≤ width := Nat.toDigits_length 10 n width hwidth h
  rw [paddedDigits, List.length_append, List.length_replicate]
  omega

theorem takeWhile_paddedDigits (rest : List Char) :
    (paddedDigits width n ++ rest).takeWhile isAsciiDigit =
      paddedDigits width n ++ rest.takeWhile isAsciiDigit :=
  List.takeWhile_append_of_pos fun _ h => isAsciiDigit_of_mem_paddedDigits h

/-- A number of a fixed width ends by itself, even before another digit. -/
theorem takeNumber?_paddedDigits (hwidth : 0 < width) (h : n < 10 ^ width) (rest : List Char) :
    takeNumber? (some width) (paddedDigits width n ++ rest) = some (n, rest) := by
  have htake : ((paddedDigits width n ++ rest).takeWhile isAsciiDigit).take width =
      paddedDigits width n := by
    rw [takeWhile_paddedDigits]
    exact List.take_left' (length_paddedDigits hwidth h)
  simp only [takeNumber?, htake, readNat?_paddedDigits, Option.map_some, List.drop_left]

/-- A number of any width ends where no digit follows. -/
theorem takeNumber?_none_paddedDigits {rest : List Char} (h : rest.takeWhile isAsciiDigit = []) :
    takeNumber? none (paddedDigits width n ++ rest) = some (n, rest) := by
  simp only [takeNumber?, takeWhile_paddedDigits, h, List.append_nil, readNat?_paddedDigits,
    Option.map_some, List.drop_left]

theorem isBlank_of_isAsciiDigit {c : Char} (h : isAsciiDigit c = true) :
    Text.isBlank c = false := by
  obtain ⟨hleast, hmost⟩ : 48 ≤ c.toNat ∧ c.toNat ≤ 57 := by
    simpa [isAsciiDigit_eq, Char.isDigit, UInt32.le_iff_toNat_le] using h
  have hbelow : ¬ c.toNat < 33 ∧ c.toNat < 133 := by omega
  simp [Text.isBlank, Text.blankRanges, Text.inRanges]
  omega

theorem exists_paddedDigits_eq_cons (width n : Nat) :
    ∃ c digits, paddedDigits width n = c :: digits ∧ isAsciiDigit c = true := by
  obtain ⟨c, digits, hcons⟩ := List.exists_cons_of_ne_nil (@paddedDigits_ne_nil width n)
  exact ⟨c, digits, hcons, isAsciiDigit_of_mem_paddedDigits (hcons ▸ List.mem_cons_self)⟩

theorem trimLeft_paddedDigits (rest : List Char) :
    Text.trimLeft (paddedDigits width n ++ rest) = paddedDigits width n ++ rest := by
  obtain ⟨c, digits, hcons, hc⟩ := exists_paddedDigits_eq_cons width n
  rw [hcons]
  simp [Text.trimLeft, isBlank_of_isAsciiDigit hc]

namespace Date

theorem takePair?_paddedDigits (h : n < 100) (rest : List Char) :
    takePair? (paddedDigits 2 n ++ rest) = some (n, rest) := by
  rw [takePair?, trimLeft_paddedDigits, takeNumber?_paddedDigits (by decide) h]

/-- Without a sign, digits are read as a year of four digits at most. -/
theorem takeYear?_of_isAsciiDigit {c : Char} (hc : isAsciiDigit c = true) (s : List Char) :
    takeYear? (c :: s) = (takeNumber? (some 4) (c :: s)).map fun p => ((p.1 : Int), p.2) := by
  have htrim : Text.trimLeft (c :: s) = c :: s := by
    simp [Text.trimLeft, isBlank_of_isAsciiDigit hc]
  unfold takeYear?
  rw [htrim]
  split
  · next heq =>
    obtain ⟨rfl, -⟩ := List.cons.inj heq
    contradiction
  · next heq =>
    obtain ⟨rfl, -⟩ := List.cons.inj heq
    contradiction
  · rfl

/-- Years of more than four digits carry a sign, and end at the hyphen. -/
theorem takeYear?_writeYear (year : Int) (rest : List Char) :
    takeYear? (writeYear year ++ '-' :: rest) = some (year, '-' :: rest) := by
  unfold writeYear
  split
  · next hyear =>
    obtain ⟨c, digits, hcons, hc⟩ := exists_paddedDigits_eq_cons 4 year.toNat
    have htake : takeNumber? (some 4) (paddedDigits 4 year.toNat ++ '-' :: rest) =
        some (year.toNat, '-' :: rest) := takeNumber?_paddedDigits (by decide) (by omega) _
    have hvalue : (year.toNat : Int) = year := Int.toNat_of_nonneg hyear.1
    rw [hcons, List.cons_append] at htake ⊢
    rw [takeYear?_of_isAsciiDigit hc, htake, Option.map_some, hvalue]
  · have htake : takeNumber? none (paddedDigits 4 year.natAbs ++ '-' :: rest) =
        some (year.natAbs, '-' :: rest) := takeNumber?_none_paddedDigits rfl
    split
    · next hneg =>
      have hvalue : -(year.natAbs : Int) = year := by omega
      change (takeNumber? none (paddedDigits 4 year.natAbs ++ '-' :: rest)).map _ = _
      rw [htake, Option.map_some, hvalue]
    · next hpos =>
      have hvalue : (year.natAbs : Int) = year := by omega
      change (takeNumber? none (paddedDigits 4 year.natAbs ++ '-' :: rest)).map _ = _
      rw [htake, Option.map_some, hvalue]

theorem daysIn_le (year : Int) (month : Nat) : daysIn year month ≤ 31 := by
  unfold daysIn
  split
  · split <;> decide
  all_goals decide

end Date

namespace Timestamp

/-- The day is one of the calendar, and the second is one of a day, or a leap second after it. -/
def Exists (t : Timestamp) : Prop :=
  t.date.Exists ∧ t.second < 86400 ∧ t.nanosecond < 2 * oneSecond

instance (t : Timestamp) : Decidable t.Exists := by unfold Exists; infer_instance

/-- A leap second that does not end a minute counts as the second after. -/
def settled (t : Timestamp) : Timestamp :=
  if t.second % 60 = 59 then t
  else ⟨t.date, t.second + t.nanosecond / oneSecond, t.nanosecond % oneSecond⟩

variable {t : Timestamp} {n : Nat}

theorem leap_le_one (h : t.Exists) : t.nanosecond / oneSecond ≤ 1 :=
  Nat.le_of_lt_succ (Nat.div_lt_of_lt_mul h.2.2)

theorem second_settled_lt (h : t.Exists) : t.settled.second < 86400 := by
  have hsecond := h.2.1
  have hleap := leap_le_one h
  unfold settled
  split
  · exact hsecond
  · change t.second + t.nanosecond / oneSecond < 86400
    omega

theorem takeDate?_writeChars {d : Date} (h : d.Exists) (rest : List Char) :
    takeDate? (d.writeChars ++ rest) = some (d, rest) := by
  have hdays := Date.daysIn_le d.year d.month
  obtain ⟨-, -, -, hmonth, -, hday⟩ := id h
  have htext : d.writeChars ++ rest = Date.writeYear d.year ++
      '-' :: (paddedDigits 2 d.month ++ '-' :: (paddedDigits 2 d.day ++ rest)) := by
    simp [Date.writeChars]
  have hmark (s : List Char) : takeMark? '-' ('-' :: s) = some s := rfl
  have hchecked : Date.checked? ⟨d.year, d.month, d.day⟩ = some d := if_pos h
  rw [takeDate?, htext, Date.takeYear?_writeYear]
  simp only [Option.bind_eq_bind, Option.bind_some, hmark,
    Date.takePair?_paddedDigits (show d.month < 100 by omega),
    Date.takePair?_paddedDigits (show d.day < 100 by omega), hchecked]
  rfl

/-- A fraction ends where no digit follows. -/
theorem takeFraction?_paddedDigits {width : Nat} (hwidth : 0 < width ∧ width ≤ 9)
    (h : n < 10 ^ width) {rest : List Char} (hrest : rest.takeWhile isAsciiDigit = []) :
    takeFraction? ('.' :: (paddedDigits width n ++ rest)) =
      some (n * tenTo (9 - width), rest) := by
  have hlength := length_paddedDigits hwidth.1 h
  have hkept : ((paddedDigits width n ++ rest).takeWhile isAsciiDigit).take 9 =
      paddedDigits width n := by
    rw [takeWhile_paddedDigits, hrest, List.append_nil]
    exact List.take_of_length_le (by omega)
  have hdrop : (paddedDigits width n ++ rest).dropWhile isAsciiDigit = rest := by
    have hstart : rest.dropWhile isAsciiDigit = rest := by
      simpa [hrest] using List.takeWhile_append_dropWhile (l := rest) (p := isAsciiDigit)
    rw [List.dropWhile_append_of_pos fun _ h => isAsciiDigit_of_mem_paddedDigits h, hstart]
  simp only [takeFraction?, hkept, hdrop, readNat?_paddedDigits, Option.map_some, hlength]

theorem takeFraction?_writeFraction (h : n < oneSecond) {rest : List Char} :
    takeFraction? (writeFraction n ++ 'Z' :: rest) = some (n, 'Z' :: rest) := by
  have hrest : ('Z' :: rest).takeWhile isAsciiDigit = [] := rfl
  unfold writeFraction
  unfold oneSecond at h
  split
  · next hzero =>
    subst hzero
    rfl
  split
  · next hmillis =>
    have hvalue : n / 1000000 * tenTo (9 - 3) = n :=
      Nat.div_mul_cancel (Nat.dvd_of_mod_eq_zero hmillis)
    rw [List.cons_append, takeFraction?_paddedDigits (by decide) (by omega) hrest, hvalue]
  split
  · next hmicros =>
    have hvalue : n / 1000 * tenTo (9 - 6) = n :=
      Nat.div_mul_cancel (Nat.dvd_of_mod_eq_zero hmicros)
    rw [List.cons_append, takeFraction?_paddedDigits (by decide) (by omega) hrest, hvalue]
  · have hvalue : n * tenTo (9 - 9) = n := Nat.mul_one n
    rw [List.cons_append, takeFraction?_paddedDigits (by decide) (by omega) hrest, hvalue]

/-- The clock shows a sixtieth second only where a leap second ends a minute. -/
theorem settled_clock (h : t.Exists) : (t.settled.second, t.settled.nanosecond) =
    if t.second % 60 + t.nanosecond / oneSecond = 60 then
      (t.second / 3600 * 3600 + t.second / 60 % 60 * 60 + 59,
        oneSecond + t.nanosecond % oneSecond)
    else
      (t.second / 3600 * 3600 + t.second / 60 % 60 * 60 +
        (t.second % 60 + t.nanosecond / oneSecond), t.nanosecond % oneSecond) := by
  have hleap := leap_le_one h
  have hsplit : oneSecond * (t.nanosecond / oneSecond) + t.nanosecond % oneSecond = t.nanosecond :=
    Nat.div_add_mod _ _
  by_cases hend : t.second % 60 = 59
  · rw [settled, if_pos hend, hend]
    obtain hnone | hone := Nat.le_one_iff_eq_zero_or_eq_one.1 hleap
    · rw [hnone] at hsplit ⊢
      have hvalue : t.second / 3600 * 3600 + t.second / 60 % 60 * 60 + (59 + 0) = t.second := by
        omega
      have hnanosecond : t.nanosecond % oneSecond = t.nanosecond := by omega
      rw [if_neg (by decide), hvalue, hnanosecond]
    · rw [hone] at hsplit ⊢
      have hvalue : t.second / 3600 * 3600 + t.second / 60 % 60 * 60 + 59 = t.second := by omega
      have hnanosecond : oneSecond + t.nanosecond % oneSecond = t.nanosecond := by omega
      rw [if_pos rfl, hvalue, hnanosecond]
  · have hlast : t.second % 60 + t.nanosecond / oneSecond ≠ 60 := by omega
    have hvalue : t.second / 3600 * 3600 + t.second / 60 % 60 * 60 +
        (t.second % 60 + t.nanosecond / oneSecond) = t.second + t.nanosecond / oneSecond := by
      omega
    rw [settled, if_neg hend, if_neg hlast, hvalue]

theorem takeTime?_write (h : t.Exists) (rest : List Char) :
    takeTime? (paddedDigits 2 (t.second / 3600) ++ ':' :: (paddedDigits 2 (t.second / 60 % 60) ++
      ':' :: (paddedDigits 2 (t.second % 60 + t.nanosecond / oneSecond) ++
        (writeFraction (t.nanosecond % oneSecond) ++ 'Z' :: rest)))) =
      some (t.settled.second, t.settled.nanosecond, 'Z' :: rest) := by
  have hsecond := h.2.1
  have hleap := leap_le_one h
  have hclock := settled_clock h
  have hfraction : t.nanosecond % oneSecond < oneSecond := Nat.mod_lt _ (by decide)
  have hmark (s : List Char) : takeMark? ':' (':' :: s) = some s := rfl
  have hpair (n : Nat) (hn : n < 100) (s : List Char) := Date.takePair?_paddedDigits hn s
  have hrange : t.second / 3600 < 24 ∧ t.second / 60 % 60 < 60 ∧
      t.second % 60 + t.nanosecond / oneSecond ≤ 60 := by omega
  rw [takeTime?]
  simp only [Option.bind_eq_bind, hpair _ (show t.second / 3600 < 100 by omega),
    hpair _ (show t.second / 60 % 60 < 100 by omega),
    hpair _ (show t.second % 60 + t.nanosecond / oneSecond < 100 by omega), hmark,
    Option.bind_some, takeFraction?_writeFraction hfraction, if_pos hrange]
  split at hclock
  · next hsixty =>
    obtain ⟨hvalue, hnanosecond⟩ := Prod.mk.inj hclock
    rw [if_pos hsixty, hvalue, hnanosecond]
    rfl
  · next hbelow =>
    obtain ⟨hvalue, hnanosecond⟩ := Prod.mk.inj hclock
    rw [if_neg hbelow, hvalue, hnanosecond]
    rfl

theorem read?_write (h : t.Exists) : read? t.write = some t.settled := by
  have htext : t.write.toList = t.date.writeChars ++ 'T' :: (paddedDigits 2 (t.second / 3600) ++
      ':' :: (paddedDigits 2 (t.second / 60 % 60) ++
        ':' :: (paddedDigits 2 (t.second % 60 + t.nanosecond / oneSecond) ++
          (writeFraction (t.nanosecond % oneSecond) ++ ['Z'])))) := by
    simp [write]
  have hoffset : takeOffset? (Text.trimLeft ['Z']) = some (0, []) := rfl
  have hdate : t.settled.date = t.date := by
    unfold settled
    split <;> rfl
  have hsecond := second_settled_lt h
  have hshifted : shifted? t.date t.settled.second t.settled.nanosecond 0 = some t.settled := by
    rw [shifted?, ← hdate]
    simp only [Int.sub_zero, if_neg (show ¬ (t.settled.second : Int) < 0 by omega),
      if_neg (show ¬ 86400 ≤ (t.settled.second : Int) by omega), Int.toNat_natCast]
  rw [read?, htext, takeDate?_writeChars h.1]
  simp only [Option.bind_eq_bind, Option.bind_some, true_or, if_true, takeTime?_write h, hoffset]
  exact hshifted

end Timestamp

end CivicReport
