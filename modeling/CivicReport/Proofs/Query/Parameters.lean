import CivicReport.Query.Compilation
import CivicReport.Registry.Municipal
import CivicReport.Proofs.Decimal.Values
import CivicReport.Proofs.Query.Dates
import CivicReport.Proofs.Vetting.Grammar

/-!
Numbers as parameters of queries. Main statement: a number that is bound as a number keeps its
value, unless it is a whole number beyond 64 bits for a field of integers, and a number is left out
only if its field is compared with no number of that value.
-/
namespace CivicReport

namespace Scalar

/-- The exact number that a value is, if it is one. -/
def value? : Scalar → Option ℚ
  | integer n => some (n.toInt : ℚ)
  | decimal x => floatValue? x
  | text _ => none

/-- Infinities and NaN count as numbers here. -/
def IsNumber : Scalar → Prop
  | integer _ | decimal _ => True
  | text _ => False

end Scalar

/-- The numbers that a field is compared with. -/
def Field.Binds (f : Field) (w : Scalar) : Prop :=
  match f.kind with
  | .integer => ∃ n, w = .integer n
  | .currency | .percentage => ∃ r, w.value? = some r
  | .text | .enumeration | .date => False

namespace Scalar

variable {f : Field} {v w : Scalar} {n : Int64}

theorem value?_ofFloat (x : Float) : (ofFloat x).value? = floatValue? x := by
  rw [ofFloat]
  split
  · next z hwhole =>
    split
    · next hsmall =>
      have hsmall : z.natAbs < 2 ^ 63 := hsmall
      rw [value?, Int64.toInt_ofInt_of_le (by omega) (by omega), wholeNumber?_eq_some_iff.1 hwhole]
    · rfl
  · rfl

/-- A number that is bound as an integer is whole, and becomes the nearest integer of 64 bits. -/
theorem toInt64?_eq_some_iff (hv : v.IsNumber) : v.toInt64? = some n ↔
    ∃ z : Int, v.value? = some (z : ℚ) ∧ n.toInt = nearestInt64 z := by
  cases v with
  | text s => exact hv.elim
  | integer i =>
    simp only [toInt64?, value?, Option.some.injEq, Int.cast_inj]
    constructor
    · rintro rfl
      exact ⟨i.toInt, rfl, (nearestInt64_toInt i).symm⟩
    · rintro ⟨_, rfl, hn⟩
      rw [nearestInt64_toInt] at hn
      exact (Int64.toInt_inj.1 hn).symm
  | decimal x =>
    simp only [toInt64?, value?, Option.map_eq_some_iff, ← wholeNumber?_eq_some_iff]
    constructor
    · rintro ⟨z, hz, rfl⟩
      exact ⟨z, hz, toInt_wholeInt64 hz⟩
    · rintro ⟨z, hz, hn⟩
      exact ⟨z, hz, Int64.toInt_inj.1 ((toInt_wholeInt64 hz).trans hn.symm)⟩

/-- Every number but infinities and NaN is bound as an amount, which is of its value. -/
theorem map_value?_toAmount? (hv : v.IsNumber) : v.toAmount?.map value? = v.value?.map some := by
  cases v with
  | text s => exact hv.elim
  | integer i => rfl
  | decimal x =>
    have hfinite := isSome_floatValue? x
    change (((some x).filter (·.isFinite)).map ofFloat).map value? = (floatValue? x).map some
    rw [Option.filter_some, ← hfinite]
    cases hvalue : floatValue? x with
    | none => rfl
    | some r =>
      change some (ofFloat x).value? = some (some r)
      rw [value?_ofFloat, hvalue]

/-- A whole number beyond 64 bits is bound as the nearest bound. -/
def Saturates (v w : Scalar) : Prop :=
  ∃ z : Int, v.value? = some (z : ℚ) ∧
    (z < leastInt64 ∧ w = .integer Int64.minValue ∨ mostInt64 < z ∧ w = .integer Int64.maxValue)

theorem value?_toInt64? (hv : v.IsNumber) (h : v.toInt64? = some n) :
    (integer n).value? = v.value? ∨ Saturates v (integer n) := by
  obtain ⟨z, hz, hn⟩ := (toInt64?_eq_some_iff hv).1 h
  by_cases hleast : leastInt64 ≤ z
  · by_cases hmost : z ≤ mostInt64
    · left
      rw [value?, hn, nearestInt64_of_mem hleast hmost, hz]
    · right
      refine ⟨z, hz, .inr ⟨not_le.1 hmost, congrArg integer (Int64.toInt_inj.1 ?_)⟩⟩
      rw [hn, nearestInt64, min_eq_left (le_of_not_ge hmost)]
      rfl
  · right
    refine ⟨z, hz, .inl ⟨not_le.1 hleast, congrArg integer (Int64.toInt_inj.1 ?_)⟩⟩
    have hsmall : min mostInt64 z ≤ leastInt64 := (min_le_right _ _).trans (le_of_not_ge hleast)
    rw [hn, nearestInt64, max_eq_left hsmall]
    rfl

/-- A number that is bound as a number keeps its value, unless the field is one of integers and the
number is beyond 64 bits. A number is left out only if its field is compared with nothing of its
value. -/
theorem value?_coerce? (f : Field) (hv : v.IsNumber) :
    (∀ w, v.coerce? f = some w → w.IsNumber →
      f.Binds w ∧ (w.value? = v.value? ∨ f.kind = .integer ∧ Saturates v w)) ∧
    (v.coerce? f = none → ∀ w, f.Binds w → w.value? ≠ v.value?) := by
  unfold coerce? Field.Binds
  cases hkind : f.kind with
  | text | enumeration =>
    refine ⟨?_, nofun⟩
    rintro w ⟨⟩ hw
    exact hw.elim
  | date =>
    refine ⟨?_, fun _ w hbinds => hbinds.elim⟩
    intro w hw hnumber
    obtain ⟨d, -, -, rfl⟩ := exists_date_of_toDate? hw
    exact hnumber.elim
  | integer =>
    constructor
    · intro w hw _
      obtain ⟨n, hn, rfl⟩ := Option.map_eq_some_iff.1 hw
      exact ⟨⟨n, rfl⟩, (value?_toInt64? hv hn).imp_right fun h => ⟨rfl, h⟩⟩
    · rintro hnone _ ⟨n, rfl⟩ hvalue
      have hfound : v.toInt64? = some n :=
        (toInt64?_eq_some_iff hv).2 ⟨n.toInt, hvalue.symm, (nearestInt64_toInt n).symm⟩
      rw [hfound] at hnone
      contradiction
  | currency | percentage =>
    have hamount := map_value?_toAmount? hv
    constructor
    · intro w hw _
      rw [show v.toAmount? = some w from hw] at hamount
      obtain ⟨r, hr, hvalue⟩ := Option.map_eq_some_iff.1 hamount.symm
      exact ⟨⟨r, hvalue.symm⟩, .inl (hvalue.symm.trans hr.symm)⟩
    · rintro hnone w ⟨r, hr⟩ hvalue
      rw [show v.toAmount? = none from hnone, ← hvalue, hr] at hamount
      contradiction

theorem value?_coerce?_year : ∃ f, Registry.transactions.field? "year" = some f ∧
    (decimal 2024.0).coerce? f = some (integer 2024) ∧ (decimal 2024.0).IsNumber ∧
    (∀ w, (decimal 2024.0).coerce? f = some w → w.IsNumber → f.Binds w ∧
      (w.value? = (decimal 2024.0).value? ∨ f.kind = .integer ∧ Saturates (decimal 2024.0) w)) ∧
    ((decimal 2024.0).coerce? f = none →
      ∀ w, f.Binds w → w.value? ≠ (decimal 2024.0).value?) :=
  ⟨_, rfl, by decide, trivial, value?_coerce? _ trivial⟩

/-- The first whole number beyond 64 bits is bound as the last one within. -/
theorem coerce?_beyondInt64 :
    (Registry.transactions.field? "year").bind (coerce? · (decimal 9223372036854775808.0)) =
        some (integer 9223372036854775807) ∧
      (decimal 9223372036854775808.0).value? = some 9223372036854775808 ∧
      (integer 9223372036854775807).value? = some 9223372036854775807 := by
  have hwhole : wholeNumber? 9223372036854775808.0 = some 9223372036854775808 := by decide
  have hinteger : (9223372036854775807 : Int64).toInt = 9223372036854775807 := rfl
  refine ⟨by decide, ?_, ?_⟩
  · rw [value?, wholeNumber?_eq_some_iff.1 hwhole]
    norm_num
  · rw [value?, hinteger]
    norm_num

end Scalar

end CivicReport
