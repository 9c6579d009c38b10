import CivicReport.Query.Compilation
import CivicReport.Registry.Municipal
import CivicReport.Proofs.Calendar.Days

/-!
Dates as parameters of queries. However freely a date is written, it is bound in its one written
form, which the field would take as it is. Main statement: what is bound for a field of dates names
a day of the calendar, and a number is bound as the first day of its year.
-/
namespace CivicReport

namespace Date

theorem exists_firstDay {year : Int} (h : 1900 ≤ year ∧ year ≤ 2100) : Exists ⟨year, 1, 1⟩ := by
  have hleast : leastYear ≤ year := by
    unfold leastYear
    omega
  have hmost : year ≤ mostYear := by
    unfold mostYear
    omega
  exact ⟨hleast, hmost, by simp [daysIn]⟩

/-- A number of four digits is written as a year by itself. -/
theorem write_firstDay {year : Int} (h : 1000 ≤ year ∧ year ≤ 9999) :
    write ⟨year, 1, 1⟩ = intText year ++ "-01-01" := by
  have hvalue : year.toNat = year.natAbs := by omega
  have hmore : ¬ (Nat.toDigits 10 year.natAbs).length ≤ 3 := by
    rw [Nat.length_toDigits_le_iff (by decide) (by decide)]
    omega
  have hzeros : 4 - (Nat.toDigits 10 year.natAbs).length = 0 := by omega
  have hyear : writeYear year = Nat.toDigits 10 year.natAbs := by
    rw [writeYear, if_pos (by omega), hvalue, paddedDigits]
    simp only [hzeros, List.replicate_zero, List.nil_append]
  have hday : '-' :: paddedDigits 2 1 ++ '-' :: paddedDigits 2 1 = "-01-01".toList := by decide
  rw [write, writeChars, hyear, List.append_assoc, hday, String.ofList_append,
    String.ofList_toList, intText, if_neg (by omega), natText]

end Date

namespace Scalar

variable {f : Field} {v w : Scalar} {n : Int64} {d : Date}

/-- The day that a value names: the first day of a year, or the day that a text is read as. -/
def date? : Scalar → Option Date
  | integer year => some ⟨year.toInt, 1, 1⟩
  | text s => Date.read? (Text.trim s.toList)
  | decimal _ => none

theorem toDate?_integer_eq_some_iff : (integer n).toDate? = some w ↔
    1900 ≤ n.toInt ∧ n.toInt ≤ 2100 ∧ w = text (Date.write ⟨n.toInt, 1, 1⟩) := by
  rw [toDate?, Option.ite_none_right_eq_some, and_assoc, Option.some.injEq]
  refine and_congr_right fun hleast => and_congr_right fun hmost => ?_
  have hyear : 1000 ≤ n.toInt ∧ n.toInt ≤ 9999 := by omega
  rw [← Date.write_firstDay hyear, eq_comm]

theorem date?_write (h : d.Exists) : (text d.write).date? = some d := by
  have htrim : Text.trim d.writeChars = d.writeChars :=
    Text.trim_eq_self fun c hc => Date.isBlank_of_mem_writeChars hc
  rw [date?, Date.write, String.toList_ofList, htrim, Date.read?_writeChars h]

/-- A day in its written form is bound as it is. -/
theorem toDate?_write (h : d.Exists) : (text d.write).toDate? = some (text d.write) := by
  have hread : Date.read? (Text.trim d.write.toList) = some d := date?_write h
  rw [toDate?, hread]
  rfl

theorem exists_date_of_toDate? (h : v.toDate? = some w) : ∃ d, v.date? = some d ∧ d.Exists ∧
    w = text d.write := by
  cases v with
  | integer n =>
    obtain ⟨hleast, hmost, rfl⟩ := toDate?_integer_eq_some_iff.1 h
    exact ⟨_, rfl, Date.exists_firstDay ⟨hleast, hmost⟩, rfl⟩
  | decimal x => contradiction
  | text s =>
    obtain ⟨d, hread, rfl⟩ := Option.map_eq_some_iff.1 h
    exact ⟨d, hread, Date.exists_of_read? hread, rfl⟩

/-- A field of dates binds the written form of the day that a value names, and binds that form as it
is. Of the numbers it binds the years from 1900 to 2100. -/
theorem coerce?_written (hkind : f.kind = .date) :
    (∀ v w : Scalar, v.coerce? f = some w → ∃ (d : Date) (s : String), w = text s ∧
      d.Exists ∧ d.IsWritten s.toList ∧ v.date? = some d ∧ w.date? = some d ∧
      w.coerce? f = some w) ∧
    ∀ (n : Int64) (w : Scalar), (integer n).coerce? f = some w ↔
      1900 ≤ n.toInt ∧ n.toInt ≤ 2100 ∧ w = text (Date.write ⟨n.toInt, 1, 1⟩) := by
  have hcoerce (v : Scalar) : v.coerce? f = v.toDate? := by
    unfold coerce?
    rw [hkind]
  simp only [hcoerce]
  refine ⟨?_, fun n w => toDate?_integer_eq_some_iff⟩
  intro v w h
  obtain ⟨d, hnamed, hexists, rfl⟩ := exists_date_of_toDate? h
  have hwritten : d.IsWritten d.write.toList := by
    rw [Date.write, String.toList_ofList]
    exact Date.isWritten_writeChars hexists
  exact ⟨d, d.write, rfl, hexists, hwritten, hnamed, date?_write hexists, toDate?_write hexists⟩

/-- A leap day, written with spaces and without zeros. -/
theorem coerce?_written_leapDay : ∃ f, Registry.permissions.field? "valid_until" = some f ∧
    f.kind = .date ∧ (text " 2024-2- 29").coerce? f = some (text "2024-02-29") ∧
    ∃ (d : Date) (s : String), text "2024-02-29" = text s ∧ d.Exists ∧ d.IsWritten s.toList ∧
      (text " 2024-2- 29").date? = some d ∧ (text "2024-02-29").date? = some d ∧
      (text "2024-02-29").coerce? f = some (text "2024-02-29") := by
  have hbound : (Registry.permissions.field? "valid_until").bind (coerce? · (text " 2024-2- 29")) =
      some (text "2024-02-29") := by decide
  exact ⟨_, rfl, rfl, hbound, (coerce?_written rfl).1 _ _ hbound⟩

end Scalar

end CivicReport
