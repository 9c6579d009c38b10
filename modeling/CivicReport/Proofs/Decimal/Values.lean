import CivicReport.Decimal.Exact
import CivicReport.Proofs.Decimal.Doubles
import Mathlib.Algebra.Order.Round

/-!
The exact numbers that doubles stand for, by the model that doubles have. Main statements: the parts
that are read from the bits of a double are those of the model, a double is taken for a whole number
exactly when its value is one, and what is cut off or rounded is its value.
-/
namespace CivicReport

open Float.Model Float.Model.UnpackedFloat

def signFactor : Sign → ℚ
  | .positive => 1
  | .negative => -1

/-- The number that a double stands for, if it is neither infinite nor NaN. -/
def unpackedValue? : UnpackedFloat → Option ℚ
  | .finite s m e _ => some (signFactor s * (m * 2 ^ e))
  | .zero _ => some 0
  | .infinity _ | .notANumber => none

def floatValue? (x : Float) : Option ℚ := unpackedValue? x.toModel.unpack

theorem isSome_floatValue? (x : Float) : (floatValue? x).isSome = x.isFinite := by
  change (unpackedValue? x.toModel.unpack).isSome = x.toModel.unpack.isFinite
  cases x.toModel.unpack <;> rfl

/-- What has no value is not a number or infinite. -/
theorem unpack_of_floatValue?_eq_none {x : Float} (h : floatValue? x = none) :
    x.toModel.unpack = .notANumber ∨ ∃ s, x.toModel.unpack = .infinity s := by
  rw [floatValue?] at h
  cases hunpack : x.toModel.unpack with
  | notANumber => exact .inl rfl
  | infinity s => exact .inr ⟨s, rfl⟩
  | zero | finite => simp [hunpack, unpackedValue?] at h

/-- What a function does to a magnitude, with the sign of the number. -/
def mirrored (f : ℚ → ℤ) (q : ℚ) : ℤ := if q < 0 then -f (-q) else f q

/-- The whole number next to a number, towards zero. -/
def wholePart : ℚ → ℤ := mirrored Int.floor

/-- The nearest whole number; of two, the one that is further from zero. -/
def nearestAway : ℚ → ℤ := mirrored round

/-! The parts of a double. -/

section Bits

variable (b : BitVec 64)

theorem toNat_unpackExponent :
    (@unpackExponent Format.binary64 b).toNat = b.toNat / 2 ^ 52 % 2 ^ 11 := by
  change (b.toNat >>> 52) % 2 ^ 11 = _
  rw [Nat.shiftRight_eq_div_pow]

theorem toNat_unpackMantissa : (@unpackMantissa Format.binary64 b).toNat = b.toNat % 2 ^ 52 := by
  change (b.toNat >>> 0) % 2 ^ 52 = _
  rw [Nat.shiftRight_zero]

theorem toNat_unpackSign : (@unpackSign Format.binary64 b).toNat = b.toNat / 2 ^ 63 := by
  have hlt := b.isLt
  change (b.toNat >>> 63) % 2 = _
  rw [Nat.shiftRight_eq_div_pow, Nat.mod_eq_of_lt (by omega)]

end Bits

namespace Dyad

theorem cast_twoTo (n : Nat) : (twoTo n : ℚ) = 2 ^ n := by
  rw [twoTo, Nat.pow_eq, Nat.cast_pow, Nat.cast_ofNat]

/-- The exact number. -/
def value (d : Dyad) : ℚ := (if d.negative then -1 else 1) * (d.mantissa * 2 ^ d.exponent)

/-- The parts that the bits of a double are read as. -/
def ofBits? (b : BitVec 64) : Option Dyad :=
  let field := (@unpackExponent Format.binary64 b).toNat
  let fraction := (@unpackMantissa Format.binary64 b).toNat
  let negative := (@unpackSign Format.binary64 b).toNat == 1
  if field = 2047 then none
  else if field = 0 then some ⟨negative, fraction, -1074⟩
  else some ⟨negative, 2 ^ 52 + fraction, (field : Int) - 1075⟩

theorem ofFloat?_eq (x : Float) : ofFloat? x = ofBits? x.toBits.toBitVec := by
  rw [ofBits?, toNat_unpackExponent, toNat_unpackMantissa, toNat_unpackSign]
  rfl

theorem signFactor_ofBitVec (s : BitVec 1) :
    signFactor (Sign.ofBitVec s) = if (s.toNat == 1) = true then -1 else 1 := by
  have hlt := s.isLt
  rw [Sign.ofBitVec]
  split
  · next hzero =>
    rw [hzero]
    rfl
  · next hne =>
    have hone : s.toNat ≠ 0 := fun h => hne (BitVec.eq_of_toNat_eq h)
    rw [if_pos (by rw [beq_iff_eq]; omega)]
    rfl

/-- The numbers that the bits of doubles are read as are those of the model. -/
theorem map_value_ofFloat? (x : Float) : (ofFloat? x).map value = floatValue? x := by
  rw [ofFloat?_eq]
  change _ = unpackedValue? (UnpackedFloat.unpack Format.binary64 x.toBits.toBitVec)
  generalize x.toBits.toBitVec = b
  unfold ofBits? UnpackedFloat.unpack
  dsimp only
  generalize @unpackExponent Format.binary64 b = e
  change BitVec 11 at e
  by_cases hinfinite : e = -1#11
  · rw [if_pos (by rw [hinfinite]; rfl), if_pos hinfinite]
    split <;> rfl
  have htop : e.toNat ≠ 2047 := fun h => hinfinite (BitVec.eq_of_toNat_eq h)
  rw [if_neg htop, if_neg hinfinite]
  by_cases hsmall : e = 0#11
  · rw [if_pos (by rw [hsmall]; rfl), if_pos hsmall]
    by_cases hzero : @unpackMantissa Format.binary64 b = 0#52
    · rw [dif_pos hzero, hzero]
      simp [value, unpackedValue?]
    · have hexponent : ((0#11).toNat : Int) - (Format.binary64.exponentBias + (52 : Nat)) + 1 =
          -1074 := rfl
      rw [dif_neg hzero, hsmall, hexponent, unpackedValue?, signFactor_ofBitVec]
      rfl
  · have hne : e.toNat ≠ 0 := fun h => hsmall (BitVec.eq_of_toNat_eq h)
    have hexponent : (e.toNat : Int) - (Format.binary64.exponentBias + (52 : Nat)) =
        e.toNat - 1075 := rfl
    rw [if_neg hne, if_neg hsmall, hexponent, unpackedValue?, toNat_append_one, signFactor_ofBitVec]
    rfl

theorem floatValue?_of_parts {x : Float} {d : Dyad} (h : ofFloat? x = some d) :
    floatValue? x = some d.value := by
  rw [← map_value_ofFloat?, h, Option.map_some]

theorem exists_parts {x : Float} {q : ℚ} (h : floatValue? x = some q) :
    ∃ d, ofFloat? x = some d ∧ d.value = q := by
  rwa [← map_value_ofFloat?, Option.map_eq_some_iff] at h

theorem ofFloat?_eq_none {x : Float} (h : floatValue? x = none) : ofFloat? x = none := by
  rwa [← map_value_ofFloat?, Option.map_eq_none_iff] at h

theorem value_eq_div (d : Dyad) :
    d.value = (if d.negative then -1 else 1) * (d.numerator / d.denominator) := by
  have hpow : (2 : ℚ) ^ d.exponent = 2 ^ d.exponent.toNat / 2 ^ (-d.exponent).toNat := by
    rw [← zpow_natCast, ← zpow_natCast, ← zpow_sub₀ two_ne_zero]
    congr 1
    omega
  rw [value, hpow, numerator, denominator, cast_twoTo, Nat.cast_mul, cast_twoTo, mul_div_assoc]

theorem cast_denominator_ne_zero (d : Dyad) : (d.denominator : ℚ) ≠ 0 :=
  Nat.cast_ne_zero.2 (Nat.ne_of_gt d.denominator_pos)

theorem value_eq_truncated {d : Dyad} (h : d.isWhole = true) : d.value = d.truncated := by
  obtain ⟨k, hk⟩ : d.denominator ∣ d.numerator := Nat.dvd_of_mod_eq_zero (by simpa [isWhole] using h)
  rw [value_eq_div, truncated, signed, hk, Nat.mul_div_cancel_left k d.denominator_pos, Nat.cast_mul,
    mul_div_cancel_left₀ _ d.cast_denominator_ne_zero]
  split <;> simp

theorem floor_magnitude (d : Dyad) :
    ⌊(d.numerator / d.denominator : ℚ)⌋ = (d.numerator / d.denominator : Nat) :=
  Rat.floor_natCast_div_natCast d.numerator d.denominator

theorem round_magnitude (d : Dyad) : round (d.numerator / d.denominator : ℚ) = d.rounded := by
  have hhalf : (d.numerator / d.denominator + 1 / 2 : ℚ) =
      (2 * d.numerator + d.denominator : Nat) / (2 * d.denominator : Nat) := by
    have hne := d.cast_denominator_ne_zero
    push_cast
    field_simp
  rw [round_eq, hhalf]
  exact Rat.floor_natCast_div_natCast _ _

theorem mirrored_value {f : ℚ → ℤ} {n : Nat} (d : Dyad) (hzero : f 0 = 0)
    (hn : f (d.numerator / d.denominator) = n) : mirrored f d.value = d.signed n := by
  have hmagnitude : (0 : ℚ) ≤ d.numerator / d.denominator := by positivity
  rw [value_eq_div, signed]
  cases d.negative with
  | false => simp [mirrored, hmagnitude, hn]
  | true =>
    obtain hpos | heq := hmagnitude.lt_or_eq
    · simp [mirrored, hpos, hn]
    -- Zero has no sign of its own among the rationals.
    · rw [← heq, hzero] at hn
      rw [← heq, ← hn]
      simp [mirrored, hzero]

theorem wholePart_value (d : Dyad) : wholePart d.value = d.truncated :=
  mirrored_value d Int.floor_zero d.floor_magnitude

theorem nearestAway_value (d : Dyad) : nearestAway d.value = d.signed d.rounded :=
  mirrored_value d round_zero d.round_magnitude

theorem isWhole_of_value_eq {d : Dyad} {n : Int} (h : d.value = n) : d.isWhole = true := by
  have habs : |d.value| = d.numerator / d.denominator := by
    have hpos : (0 : ℚ) ≤ d.numerator / d.denominator := by positivity
    rw [value_eq_div, abs_mul, abs_of_nonneg hpos]
    split <;> simp
  have hmultiple : d.numerator = n.natAbs * d.denominator := by
    rw [h, eq_div_iff d.cast_denominator_ne_zero, ← Int.cast_abs, Int.abs_eq_natAbs] at habs
    exact_mod_cast habs.symm
  rw [isWhole, hmultiple, Nat.mul_mod_left]
  rfl

end Dyad

/-- A double is taken for a whole number exactly when its value is one. -/
theorem wholeNumber?_eq_some_iff {x : Float} {n : Int} :
    wholeNumber? x = some n ↔ floatValue? x = some (n : ℚ) := by
  rw [wholeNumber?, ← Dyad.map_value_ofFloat?]
  cases Dyad.ofFloat? x with
  | none => simp
  | some d =>
    simp only [Option.bind_some, Option.map_some, Option.some.injEq, Option.ite_none_right_eq_some]
    constructor
    · rintro ⟨hwhole, rfl⟩
      exact Dyad.value_eq_truncated hwhole
    · intro h
      have hwhole := Dyad.isWhole_of_value_eq h
      refine ⟨hwhole, ?_⟩
      rw [Dyad.value_eq_truncated hwhole] at h
      exact Int.cast_injective h

/-- The nearest integer of 64 bits. -/
def nearestInt64 (n : Int) : Int := max leastInt64 (min mostInt64 n)

theorem nearestInt64_of_mem {n : Int} (hleast : leastInt64 ≤ n) (hmost : n ≤ mostInt64) :
    nearestInt64 n = n := by
  rw [nearestInt64, min_eq_right hmost, max_eq_right hleast]

theorem nearestInt64_toInt (i : Int64) : nearestInt64 i.toInt = i.toInt :=
  nearestInt64_of_mem i.le_toInt (Int.le_of_lt_add_one i.toInt_lt)

theorem toInt_wholeInt64_eq (x : Float) :
    (wholeInt64 x).toInt = wholeWithin leastInt64 mostInt64 x := by
  have hbounds : leastInt64 ≤ wholeWithin leastInt64 mostInt64 x ∧
      wholeWithin leastInt64 mostInt64 x ≤ mostInt64 := by
    unfold wholeWithin leastInt64 mostInt64
    split <;> omega
  exact Int64.toInt_ofInt_of_le hbounds.1 (Int.lt_add_one_of_le hbounds.2)

theorem toInt_wholeInt64_of_value {x : Float} {q : ℚ} (h : floatValue? x = some q) :
    (wholeInt64 x).toInt = nearestInt64 (wholePart q) := by
  obtain ⟨d, hd, rfl⟩ := Dyad.exists_parts h
  rw [toInt_wholeInt64_eq, wholeWithin, hd, Dyad.wholePart_value]
  rfl

@[simp] theorem wholePart_intCast (n : Int) : wholePart n = n := by
  simp [wholePart, mirrored, Int.floor_neg]

theorem toInt_wholeInt64 {x : Float} {n : Int} (h : wholeNumber? x = some n) :
    (wholeInt64 x).toInt = nearestInt64 n := by
  rw [toInt_wholeInt64_of_value (wholeNumber?_eq_some_iff.1 h), wholePart_intCast]

end CivicReport
