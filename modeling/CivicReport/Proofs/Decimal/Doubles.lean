import Mathlib

/-!
Whole numbers as doubles, by the model that doubles have. A whole number from two on has a double
with at least the exponent of two, however it is rounded, or infinity. Main statements: the double
of a whole number lies between zero and one only for these two, and what lies there is finite.
-/
namespace CivicReport

open Float.Model Float.Model.UnpackedFloat

/-- A magnitude of two or more, normalized. -/
inductive IsLarge (s : Sign) : UnpackedFloat → Prop where
  | infinity : IsLarge s (.infinity s)
  | finite {m : Nat} {e : Int} {hm : 0 < m} (hlog : m.log2 = 52) (he : -51 ≤ e) :
      IsLarge s (.finite s m e hm)

/-! Rounding. -/

theorem mantissa_shiftRight (em : ExtendedMantissa) (k : Nat) :
    (em >>> k).mantissa = em.mantissa / 2 ^ k := by
  induction k with
  | zero => exact (Nat.div_one _).symm
  | succ k ih =>
    change (em >>> k).mantissa / 2 = _
    rw [ih, Nat.div_div_eq_div_mul, Nat.pow_succ]

/-- The mantissa is rounded up by one, if at all. -/
theorem roundedMantissa_mem (em : ExtendedMantissa) :
    em.mantissa ≤ em.roundedMantissa ∧ em.roundedMantissa ≤ em.mantissa + 1 := by
  obtain ⟨m, round, sticky⟩ := em
  unfold ExtendedMantissa.roundedMantissa
  cases round <;> cases sticky <;>
    simp only [ExtendedMantissa.accuracy, Accuracy.roundToNearestEven] <;> omega

theorem targetExponent_eq {m : Nat} {e : Int} (h : -1022 ≤ m.log2 + e) :
    Format.binary64.targetExponent (totalExponent m e) = m.log2 + e - 52 := by
  simp only [Format.targetExponent, totalExponent, Format.mantissaBits, Format.minExponent]
  omega

/-- Shifting to 53 bits. -/
theorem shiftToTargetExponent_eq {m : Nat} {e : Int} (hlog : 52 ≤ m.log2) (h : -1022 ≤ m.log2 + e) :
    shiftToTargetExponent Format.binary64 m e .exact =
      (ExtendedMantissa.ofMantissaAndAccuracy m .exact >>> (m.log2 - 52), m.log2 + e - 52) := by
  have hshift : (m.log2 + e - 52 - e).toNat = m.log2 - 52 := by omega
  have hexponent : e + (m.log2 - 52 : Nat) = m.log2 + e - 52 := by omega
  simp only [shiftToTargetExponent, shiftToExponent, targetExponent_eq h, hshift, hexponent]

theorem log2_div_two_pow (m k : Nat) : (m / 2 ^ k).log2 = m.log2 - k := by
  rw [Nat.log2_eq_log_two, Nat.log2_eq_log_two, Nat.log_div_base_pow]

theorem ne_zero_of_le_log2 {k m : Nat} (hk : 0 < k) (h : k ≤ m.log2) : m ≠ 0 := by
  rintro rfl
  exact absurd h (Nat.not_le.2 hk)

/-- A mantissa of 53 bits has as many after rounding, or is the next power of two. -/
theorem roundedMantissa_cases {em : ExtendedMantissa} (h : em.mantissa.log2 = 52) :
    em.roundedMantissa.log2 = 52 ∨ em.roundedMantissa = 2 ^ 53 := by
  have hne : em.mantissa ≠ 0 := ne_zero_of_le_log2 (by decide) (Nat.le_of_eq h.symm)
  obtain ⟨hlower, hupper⟩ := (Nat.log2_eq_iff hne).1 h
  obtain ⟨hdown, hup⟩ := roundedMantissa_mem em
  by_cases hlt : em.roundedMantissa < 2 ^ 53
  · exact .inl ((Nat.log2_eq_iff (by omega)).2 ⟨by omega, hlt⟩)
  · exact .inr (by omega)

/-- What a mantissa of at least 53 bits is rounded to. One that is rounded up to the next power of
two is shifted once more. -/
theorem exists_roundWithAccuracy (s : Sign) {m : Nat} {e : Int} (hlog : 52 ≤ m.log2)
    (h : -1022 ≤ m.log2 + e) : ∃ (last : Nat) (carry : Nat) (hlast : 0 < last),
      roundWithAccuracy Format.binary64 s m e .exact =
        .finite s last (m.log2 + e - 52 + carry) hlast ∧
      last.log2 = 52 ∧ carry ≤ 1 ∧
      last * 2 ^ carry =
        (ExtendedMantissa.ofMantissaAndAccuracy m .exact >>> (m.log2 - 52)).roundedMantissa := by
  have hem : (ExtendedMantissa.ofMantissaAndAccuracy m .exact >>> (m.log2 - 52)).mantissa.log2 =
      52 := by
    have hmantissa : (ExtendedMantissa.ofMantissaAndAccuracy m .exact >>>
        (m.log2 - 52)).mantissa = m / 2 ^ (m.log2 - 52) := mantissa_shiftRight _ _
    rw [hmantissa, log2_div_two_pow]
    omega
  have hcases := roundedMantissa_cases hem
  unfold roundWithAccuracy
  rw [shiftToTargetExponent_eq hlog h]
  dsimp only
  generalize (ExtendedMantissa.ofMantissaAndAccuracy m .exact >>>
    (m.log2 - 52)).roundedMantissa = r at hcases ⊢
  obtain hr | rfl := hcases
  · have hpos : r ≠ 0 := ne_zero_of_le_log2 (by decide) (Nat.le_of_eq hr.symm)
    rw [shiftToTargetExponent_eq (by omega) (by omega), hr]
    refine ⟨r, 0, Nat.pos_of_ne_zero hpos, ?_, hr, Nat.zero_le 1, Nat.mul_one r⟩
    have hshift : (ExtendedMantissa.ofMantissaAndAccuracy r .exact >>> (52 - 52)).mantissa = r := rfl
    simp only [hshift, dif_neg hpos, UnpackedFloat.finite.injEq, true_and]
    omega
  · have htwo : (2 ^ 53).log2 = 53 := by decide
    rw [shiftToTargetExponent_eq (by omega) (by omega), htwo]
    refine ⟨2 ^ 52, 1, Nat.two_pow_pos 52, ?_, by decide, Nat.le_refl 1, by decide⟩
    have hshift : (ExtendedMantissa.ofMantissaAndAccuracy (2 ^ 53) .exact >>> (53 - 52)).mantissa =
        2 ^ 52 := rfl
    simp only [hshift, dif_neg (Nat.ne_of_gt (Nat.two_pow_pos 52)), UnpackedFloat.finite.injEq,
      true_and]
    omega

theorem isLarge_roundWithAccuracy (s : Sign) {m : Nat} {e : Int} (hlog : 52 ≤ m.log2)
    (he : 1 ≤ m.log2 + e) : IsLarge s (roundWithAccuracy Format.binary64 s m e .exact) := by
  obtain ⟨last, carry, hlast, hround, hlog, -, -⟩ :=
    exists_roundWithAccuracy s (e := e) hlog (by omega)
  rw [hround]
  exact .finite hlog (by omega)

/-! Packing. -/

theorem unpack_packedInfinity (s : Sign) :
    UnpackedFloat.unpack Format.binary64 (packedInfinity Format.binary64 s) = .infinity s := by
  simp only [UnpackedFloat.unpack, packedInfinity, unpackExponent_packComponents,
    unpackMantissa_packComponents, unpackSign_packComponents, Sign.ofBitVec_toBitVec]
  rfl

theorem toNat_append_one (m : BitVec 52) : (1#1 ++ m).toNat = 2 ^ 52 + m.toNat := by
  rw [BitVec.toNat_append, ← Nat.shiftLeft_add_eq_or_of_lt m.isLt]
  rfl

/-- With its hidden bit put back, a mantissa has 53 bits. -/
theorem log2_append_one (m : BitVec 52) : (1#1 ++ m).toNat.log2 = 52 := by
  rw [toNat_append_one, Nat.log2_eq_iff (by omega)]
  omega

theorem unpack_packComponents (s : Sign) {biased : Nat} (m : BitVec 52) (hlower : 0 < biased)
    (hupper : biased < 2047) :
    UnpackedFloat.unpack Format.binary64
        (packComponents Format.binary64 s (BitVec.ofNat 11 biased) m) =
      .finite s (1#1 ++ m).toNat ((biased : Int) - 1075) (by rw [toNat_append_one]; omega) := by
  have htoNat : (BitVec.ofNat 11 biased).toNat = biased := Nat.mod_eq_of_lt (by omega)
  have hfinite : BitVec.ofNat 11 biased ≠ -1#11 := by
    intro h
    have hsame := congrArg BitVec.toNat h
    rw [htoNat] at hsame
    exact absurd hsame (Nat.ne_of_lt hupper)
  have hnormal : BitVec.ofNat 11 biased ≠ 0#11 := by
    intro h
    have hsame := congrArg BitVec.toNat h
    rw [htoNat] at hsame
    exact absurd hsame (Nat.ne_of_gt hlower)
  simp only [UnpackedFloat.unpack, unpackExponent_packComponents,
    unpackMantissa_packComponents, unpackSign_packComponents, Sign.ofBitVec_toBitVec,
    if_neg hfinite, if_neg hnormal, htoNat]
  rfl

/-- A large number stays large in its bits; one beyond all exponents becomes infinite. -/
theorem isLarge_unpack_pack {s : Sign} {u : UnpackedFloat} (h : IsLarge s u) :
    IsLarge s (UnpackedFloat.unpack Format.binary64 (UnpackedFloat.pack Format.binary64 u)) := by
  cases h with
  | infinity =>
    rw [UnpackedFloat.pack, unpack_packedInfinity]
    exact .infinity
  | @finite m e hm hlog he =>
    unfold UnpackedFloat.pack
    dsimp only
    by_cases hfits : 2 ^ 11 ≤ (e + Format.binary64.exponentBias + (52 : Nat)).toNat + 1
    · rw [if_pos hfits, unpack_packedInfinity]
      exact .infinity
    · rw [if_neg hfits, if_pos (by rw [hlog]; rfl)]
      simp only [Format.exponentBias] at hfits ⊢
      rw [unpack_packComponents s _ (by omega) (by omega)]
      exact .finite (log2_append_one _) (by omega)

/-! Conversion of whole numbers. -/

theorem log2_mul_two_pow {n : Nat} (hn : n ≠ 0) (k : Nat) : (n * 2 ^ k).log2 = n.log2 + k := by
  have hlower : 2 ^ n.log2 ≤ n := Nat.log2_self_le hn
  have hupper : n < 2 ^ (n.log2 + 1) := Nat.lt_log2_self
  have hne : n * 2 ^ k ≠ 0 := Nat.mul_ne_zero hn (Nat.ne_of_gt (Nat.two_pow_pos k))
  rw [Nat.log2_eq_iff hne, Nat.add_right_comm, Nat.pow_add, Nat.pow_add]
  exact ⟨Nat.mul_le_mul_right _ hlower, Nat.mul_lt_mul_of_pos_right hupper (Nat.two_pow_pos k)⟩

variable {n : Nat}

theorem log2_pos (hn : 2 ≤ n) : 1 ≤ n.log2 := (Nat.le_log2 (by omega)).2 hn

/-- A whole number is given at least 53 binary digits before it is rounded. -/
theorem unpackedOfNat_eq (hn : 0 < n) :
    UnpackedFloat.ofNat Format.binary64 n =
      roundWithAccuracy Format.binary64 .positive (n * 2 ^ (52 - n.log2)) (-(52 - n.log2 : Nat))
        .exact := by
  have hpos : compare (n : Int) 0 = .gt := by
    rw [Int.compare_eq_gt]
    omega
  have hshift : (0 - ((n.log2 : Int) + 0 - 52)).toNat = 52 - n.log2 := by omega
  rw [UnpackedFloat.ofNat, UnpackedFloat.ofInt, UnpackedFloat.normalize, hpos]
  dsimp only
  rw [Int.toNat_natCast, UnpackedFloat.round, decreaseExponent, targetExponent_eq (by omega), hshift,
    Nat.shiftLeft_eq]
  dsimp only
  rw [Int.zero_sub]

theorem isLarge_unpackedOfNat (hn : 2 ≤ n) :
    IsLarge .positive (UnpackedFloat.ofNat Format.binary64 n) := by
  have hlog := log2_pos hn
  have hshifted := log2_mul_two_pow (n := n) (by omega) (52 - n.log2)
  rw [unpackedOfNat_eq (by omega)]
  exact isLarge_roundWithAccuracy .positive (by omega) (by omega)

theorem unpack_one :
    (1.0 : Float).toModel.unpack = .finite .positive (2 ^ 52) (-52) (by decide) := by
  have hbits : (1.0 : Float).toModel.toBits = 0x3FF0000000000000 := by decide
  rw [Float.Model.unpack, hbits]
  rfl

theorem unpack_hundred :
    (100.0 : Float).toModel.unpack = .finite .positive (25 * 2 ^ 48) (-46) (by decide) := by
  have hbits : (100.0 : Float).toModel.toBits = 0x4059000000000000 := by decide
  rw [Float.Model.unpack, hbits]
  rfl

theorem unpack_zero : (0.0 : Float).toModel.unpack = .zero .positive := by
  have hbits : (0.0 : Float).toModel.toBits = 0 := by decide
  rw [Float.Model.unpack, hbits]
  rfl

theorem isLarge_mul_one {x : Float} (h : IsLarge .positive x.toModel.unpack) :
    IsLarge .positive (x * 1.0).toModel.unpack := by
  suffices hproduct : IsLarge .positive
      (UnpackedFloat.mul Format.binary64 x.toModel.unpack (1.0 : Float).toModel.unpack) from
    isLarge_unpack_pack hproduct
  rw [unpack_one]
  generalize x.toModel.unpack = u at h
  cases h with
  | infinity => exact .infinity
  | @finite m e hm hlog he =>
    have hshifted := log2_mul_two_pow (Nat.ne_of_gt hm) 52
    exact isLarge_roundWithAccuracy .positive (by omega) (by omega)

/-- A number of at most 53 binary digits is converted as it is and multiplied by one. A longer one is
rounded with as many digits added. -/
theorem unpack_ofNat (hn : 0 < n) :
    (n < 2 ^ 53 ∧ ∃ x : Float, Float.ofNat n = x * 1.0 ∧ x.toModel.unpack =
      UnpackedFloat.unpack Format.binary64
        (UnpackedFloat.pack Format.binary64 (UnpackedFloat.ofNat Format.binary64 n))) ∨
    2 ^ 53 ≤ n ∧ (Float.ofNat n).toModel.unpack =
      UnpackedFloat.unpack Format.binary64 (UnpackedFloat.pack Format.binary64
        (roundWithAccuracy Format.binary64 .positive (n * 2 ^ 53) (-53) .exact)) := by
  change (n < 2 ^ 53 ∧ ∃ x : Float, Float.ofScientific n false 0 = x * 1.0 ∧ _) ∨
    2 ^ 53 ≤ n ∧ (Float.ofScientific n false 0).toModel.unpack = _
  unfold Float.ofScientific
  split
  · next hsmall =>
    have hone : Float.exactlyRepresentablePowersOfTen[0] = 1.0 := by decide
    have htoNat : n.toUInt64.toNat = n := Nat.mod_eq_of_lt (by omega)
    refine .inl ⟨hsmall.1, n.toUInt64.toFloat, by rw [if_neg (by decide), hone], ?_⟩
    change UnpackedFloat.unpack Format.binary64 (UnpackedFloat.pack Format.binary64
      (UnpackedFloat.ofNat Format.binary64 n.toUInt64.toNat)) = _
    rw [htoNat]
  · next hlarge =>
    refine .inr ⟨by omega, ?_⟩
    change UnpackedFloat.unpack Format.binary64 (UnpackedFloat.pack Format.binary64
      (UnpackedFloat.ofScientific Format.binary64 n 0)) = _
    rw [UnpackedFloat.ofScientific, dif_neg (Nat.ne_of_gt hn), if_neg (by decide),
      if_neg (by change ¬ (0 : Int) < -(2048 + n.log2); omega), if_pos (by decide),
      UnpackedFloat.mul]
    simp only [Nat.shiftLeft_eq]
    change UnpackedFloat.unpack Format.binary64 (UnpackedFloat.pack Format.binary64
      (roundWithAccuracy Format.binary64 .positive (n * 2 ^ 53 * 1) (-53 + 0) _)) = _
    rw [Nat.mul_one]
    rfl

theorem isLarge_ofNat (hn : 2 ≤ n) : IsLarge .positive (Float.ofNat n).toModel.unpack := by
  obtain ⟨-, x, hproduct, hx⟩ | ⟨hlarge, hround⟩ := unpack_ofNat (n := n) (by omega)
  · rw [hproduct]
    refine isLarge_mul_one ?_
    rw [hx]
    exact isLarge_unpack_pack (isLarge_unpackedOfNat hn)
  · have hlog := log2_pos hn
    have hshifted := log2_mul_two_pow (n := n) (by omega) 53
    rw [hround]
    exact isLarge_unpack_pack (isLarge_roundWithAccuracy .positive (by omega) (by omega))

/-! Comparison. -/

theorem le_iff_compare {x y : Float} :
    x ≤ y ↔ (x.toModel.unpack.compare y.toModel.unpack).any (·.isLE) = true :=
  decide_eq_true_iff

theorem lt_iff_compare {x y : Float} :
    x < y ↔ x.toModel.unpack.compare y.toModel.unpack = some .lt :=
  decide_eq_true_iff.trans beq_iff_eq

theorem not_le_one_of_isLarge {x : Float} (h : IsLarge .positive x.toModel.unpack) :
    ¬ x ≤ (1.0 : Float) := by
  rw [le_iff_compare, unpack_one]
  generalize x.toModel.unpack = u at h
  cases h with
  | infinity => decide
  | @finite m e _ hlog he =>
    have hexponent : compare e (-52) = .gt := by
      rw [Int.compare_eq_gt]
      omega
    simp [UnpackedFloat.compare, hexponent, Ordering.then]

theorem not_zero_le_of_isLarge {x : Float} (h : IsLarge .negative x.toModel.unpack) :
    ¬ (0.0 : Float) ≤ x := by
  rw [le_iff_compare, unpack_zero]
  generalize x.toModel.unpack = u at h
  cases h with
  | infinity => decide
  | finite => simp [UnpackedFloat.compare]

theorem isLarge_neg {x : Float} (h : IsLarge .positive x.toModel.unpack) :
    IsLarge .negative x.neg.toModel.unpack := by
  suffices hneg : IsLarge .negative x.toModel.unpack.neg from isLarge_unpack_pack hneg
  generalize x.toModel.unpack = u at h
  cases h with
  | infinity => exact .infinity
  | finite hlog he => exact .finite hlog he

/-- Of the whole numbers, zero and one have a double between the two. -/
theorem ofInt_mem_unit_iff {n : Int} :
    (0.0 : Float) ≤ Float.ofInt n ∧ Float.ofInt n ≤ 1.0 ↔ n = 0 ∨ n = 1 := by
  constructor
  · rintro ⟨hzero, hone⟩
    match n with
    | 0 => exact .inl rfl
    | 1 => exact .inr rfl
    | .ofNat (k + 2) =>
      exact absurd hone (not_le_one_of_isLarge (isLarge_ofNat (Nat.le_add_left 2 k)))
    | -1 => exact absurd hzero (by decide)
    | .negSucc (k + 1) =>
      have hlarge := isLarge_neg (isLarge_ofNat (Nat.le_add_left 2 k))
      exact absurd hzero (not_zero_le_of_isLarge hlarge)
  · rintro (rfl | rfl)
    · decide
    · decide

/-- Infinities and NaN are not between zero and one. -/
theorem isFinite_of_mem_unit {x : Float} (h : (0.0 : Float) ≤ x) (h' : x ≤ 1.0) : x.isFinite := by
  rw [le_iff_compare, unpack_zero] at h
  rw [le_iff_compare, unpack_one] at h'
  change x.toModel.unpack.isFinite = true
  generalize x.toModel.unpack = u at h h'
  cases u with
  | zero | finite => rfl
  | notANumber => contradiction
  | infinity s =>
    cases s with
    | positive => contradiction
    | negative => contradiction

end CivicReport
