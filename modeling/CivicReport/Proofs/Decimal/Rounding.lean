import CivicReport.Proofs.Decimal.Values

/-!
The doubles of whole numbers, by the model that doubles have: a whole number is rounded to 53 binary
digits, and of two doubles at the same distance the even one is taken. Main statements: the double
of a whole number stands for what this rounding makes of it, no double is nearer, and a whole number
is left as it is exactly when it is the value of a double.
-/
namespace CivicReport

open Float.Model Float.Model.UnpackedFloat

/-! Nearest multiples. -/

/-- The multiple of a step that is nearest to a number, the even one where two are. -/
def nearestMultiple (step n : Nat) : Nat :=
  let below := n / step
  let twice := 2 * (n % step)
  if twice < step then below * step
  else if step < twice then (below + 1) * step
  else (below + below % 2) * step

section Multiples

variable {step n : Nat}

theorem nearestMultiple_cases (step n : Nat) :
    nearestMultiple step n = n / step * step ∧ 2 * (n % step) ≤ step ∨
      nearestMultiple step n = (n / step + 1) * step ∧ step ≤ 2 * (n % step) := by
  unfold nearestMultiple
  dsimp only
  split
  · next hlow => exact .inl ⟨rfl, Nat.le_of_lt hlow⟩
  · next hlow =>
    split
    · next hhigh => exact .inr ⟨rfl, Nat.le_of_lt hhigh⟩
    · next hhigh =>
      obtain heven | hodd := Nat.mod_two_eq_zero_or_one (n / step)
      · exact .inl ⟨by rw [heven, Nat.add_zero], Nat.not_lt.1 hhigh⟩
      · exact .inr ⟨by rw [hodd], Nat.not_lt.1 hlow⟩

theorem nearestMultiple_of_dvd (h : step ∣ n) : nearestMultiple step n = n := by
  have hmod : n % step = 0 := Nat.mod_eq_zero_of_dvd h
  have hdiv : n / step * step = n := Nat.div_mul_cancel h
  unfold nearestMultiple
  dsimp only
  split
  · exact hdiv
  · have hstep : step = 0 := by omega
    subst hstep
    obtain rfl : n = 0 := Nat.zero_dvd.1 h
    rfl

theorem nearestMultiple_mul {c : Nat} (hc : 0 < c) :
    nearestMultiple (step * c) (n * c) = nearestMultiple step n * c := by
  have hdiv : n * c / (step * c) = n / step := Nat.mul_div_mul_right n step hc
  have hmod : 2 * (n * c % (step * c)) = 2 * (n % step) * c := by
    rw [Nat.mul_mod_mul_right, Nat.mul_assoc]
  unfold nearestMultiple
  simp only [hdiv, hmod, Nat.mul_lt_mul_right hc]
  split
  · rw [Nat.mul_assoc]
  · split
    · rw [Nat.mul_assoc]
    · rw [Nat.mul_assoc]

/-- No multiple of the step is nearer. -/
theorem natAbs_sub_nearestMultiple_le (c : Nat) :
    ((n : Int) - nearestMultiple step n).natAbs ≤ ((n : Int) - (c * step : Nat)).natAbs := by
  obtain rfl | hstep := Nat.eq_zero_or_pos step
  · have hzero : nearestMultiple 0 n = 0 := by
      obtain ⟨h, -⟩ | ⟨h, -⟩ := nearestMultiple_cases 0 n
      · rw [h, Nat.mul_zero]
      · rw [h, Nat.mul_zero]
    rw [hzero, Nat.mul_zero]
  have hn : n / step * step + n % step = n := by
    rw [Nat.mul_comm]
    exact Nat.div_add_mod n step
  have hmod : n % step < step := Nat.mod_lt n hstep
  have hnext : (n / step + 1) * step = n / step * step + step := Nat.succ_mul _ _
  have hside : c * step ≤ n / step * step ∨ (n / step + 1) * step ≤ c * step := by
    obtain hlt | hle := Nat.lt_or_ge (n / step) c
    · exact .inr (Nat.mul_le_mul_right _ hlt)
    · exact .inl (Nat.mul_le_mul_right _ hle)
  obtain ⟨h, hhalf⟩ | ⟨h, hhalf⟩ := nearestMultiple_cases step n
  · rw [h]
    omega
  · rw [h]
    omega

/-- A number is at most half a step away. -/
theorem two_mul_natAbs_sub_nearestMultiple_le (hstep : 0 < step) :
    2 * ((n : Int) - nearestMultiple step n).natAbs ≤ step := by
  have hn : n / step * step + n % step = n := by
    rw [Nat.mul_comm]
    exact Nat.div_add_mod n step
  have hmod : n % step < step := Nat.mod_lt n hstep
  have hnext : (n / step + 1) * step = n / step * step + step := Nat.succ_mul _ _
  obtain ⟨h, hhalf⟩ | ⟨h, hhalf⟩ := nearestMultiple_cases step n
  · rw [h]
    omega
  · rw [h]
    omega

end Multiples

/-! Rounding of a mantissa. -/

/-- What is shifted out leaves two bits: whether it is at least a half, and whether it is neither
nothing nor exactly a half. -/
theorem shiftRight_eq (m k : Nat) :
    ExtendedMantissa.ofMantissaAndAccuracy m .exact >>> k =
      ⟨m / 2 ^ k, decide (2 ^ k ≤ 2 * (m % 2 ^ k)),
        decide (2 * (m % 2 ^ k) ≠ 0 ∧ 2 * (m % 2 ^ k) ≠ 2 ^ k)⟩ := by
  induction k with
  | zero => simp [ExtendedMantissa.ofMantissaAndAccuracy, Nat.mod_one]; rfl
  | succ k ih =>
    have hstep : ExtendedMantissa.ofMantissaAndAccuracy m .exact >>> (k + 1) =
        (ExtendedMantissa.ofMantissaAndAccuracy m .exact >>> k).shiftRightOne := rfl
    have hmod : m % 2 ^ (k + 1) = m % 2 ^ k + 2 ^ k * (m / 2 ^ k % 2) := by
      rw [Nat.pow_succ, Nat.mod_mul]
    have hlt : m % 2 ^ k < 2 ^ k := Nat.mod_lt _ (Nat.two_pow_pos k)
    have hbit : m % 2 ^ (k + 1) = m % 2 ^ k ∧ m / 2 ^ k % 2 = 0 ∨
        m % 2 ^ (k + 1) = m % 2 ^ k + 2 ^ k ∧ m / 2 ^ k % 2 = 1 := by
      obtain hbit | hbit := Nat.mod_two_eq_zero_or_one (m / 2 ^ k)
      · exact .inl ⟨by rw [hmod, hbit, Nat.mul_zero, Nat.add_zero], hbit⟩
      · exact .inr ⟨by rw [hmod, hbit, Nat.mul_one], hbit⟩
    have hround : (m / 2 ^ k % 2 != 0) = decide (2 ^ (k + 1) ≤ 2 * (m % 2 ^ (k + 1))) := by
      rw [Bool.eq_iff_iff, bne_iff_ne, decide_eq_true_iff]
      omega
    have hsticky : (decide (2 ^ k ≤ 2 * (m % 2 ^ k)) ||
        decide (2 * (m % 2 ^ k) ≠ 0 ∧ 2 * (m % 2 ^ k) ≠ 2 ^ k)) =
          decide (2 * (m % 2 ^ (k + 1)) ≠ 0 ∧ 2 * (m % 2 ^ (k + 1)) ≠ 2 ^ (k + 1)) := by
      rw [Bool.eq_iff_iff, Bool.or_eq_true, decide_eq_true_iff, decide_eq_true_iff,
        decide_eq_true_iff]
      omega
    rw [hstep, ih, ExtendedMantissa.shiftRightOne, Nat.div_div_eq_div_mul, ← Nat.pow_succ, hround,
      hsticky]

/-- Rounding what was shifted goes to the nearest multiple of the power that was shifted out. -/
theorem roundedMantissa_shiftRight (m k : Nat) :
    (ExtendedMantissa.ofMantissaAndAccuracy m .exact >>> k).roundedMantissa * 2 ^ k =
      nearestMultiple (2 ^ k) m := by
  have hpos : 0 < 2 ^ k := Nat.two_pow_pos k
  rw [shiftRight_eq, ExtendedMantissa.roundedMantissa, nearestMultiple]
  generalize 2 * (m % 2 ^ k) = twice
  dsimp only
  obtain hlow | hhalf | hhigh := Nat.lt_trichotomy twice (2 ^ k)
  · have hround : decide (2 ^ k ≤ twice) = false := decide_eq_false (Nat.not_le.2 hlow)
    rw [hround, if_pos hlow]
    by_cases hzero : twice = 0
    · simp [hzero, ExtendedMantissa.accuracy, Accuracy.roundToNearestEven]
    · simp [hzero, Nat.ne_of_lt hlow, ExtendedMantissa.accuracy, Accuracy.roundToNearestEven]
  · subst hhalf
    simp [ExtendedMantissa.accuracy, Accuracy.roundToNearestEven]
  · have hround : decide (2 ^ k ≤ twice) = true := decide_eq_true (Nat.le_of_lt hhigh)
    have hzero : twice ≠ 0 := by omega
    rw [hround, if_neg (Nat.not_lt.2 (Nat.le_of_lt hhigh)), if_pos hhigh]
    simp [hzero, Nat.ne_of_gt hhigh, ExtendedMantissa.accuracy, Accuracy.roundToNearestEven]

/-- A double with 53 binary digits, of a sign and a magnitude. -/
inductive IsNormal (s : Sign) (q : ℚ) : UnpackedFloat → Prop where
  | finite {m : Nat} {e : Int} {hm : 0 < m} (hlog : m.log2 = 52) (hleast : -1074 ≤ e)
      (hmost : e ≤ 971) (hvalue : (m : ℚ) * 2 ^ e = q) : IsNormal s q (.finite s m e hm)

variable {s : Sign} {m n : Nat} {e : Int} {q : ℚ} {u : UnpackedFloat} {x : Float}

theorem mul_two_pow_mul_zpow (q : ℚ) (k : Nat) (e : Int) : q * 2 ^ k * 2 ^ e = q * 2 ^ (k + e) := by
  rw [mul_assoc, ← zpow_natCast, ← zpow_add₀ two_ne_zero]

/-- A mantissa of at least 53 binary digits is rounded to as many. -/
theorem isNormal_roundWithAccuracy (s : Sign) (hlog : 52 ≤ m.log2) (hleast : -1022 ≤ m.log2 + e)
    (hmost : (nearestMultiple (2 ^ (m.log2 - 52)) m).log2 + e ≤ 1023) :
    IsNormal s (nearestMultiple (2 ^ (m.log2 - 52)) m * 2 ^ e)
      (roundWithAccuracy Format.binary64 s m e .exact) := by
  obtain ⟨last, carry, hlast, hround, hlastLog, -, hrounded⟩ :=
    exists_roundWithAccuracy s hlog hleast
  have hvalue : nearestMultiple (2 ^ (m.log2 - 52)) m = last * 2 ^ (carry + (m.log2 - 52)) := by
    rw [← roundedMantissa_shiftRight, ← hrounded, Nat.pow_add, Nat.mul_assoc]
  have hvalueLog := log2_mul_two_pow (Nat.ne_of_gt hlast) (carry + (m.log2 - 52))
  rw [hvalue] at hmost ⊢
  rw [hround]
  refine .finite hlastLog (by omega) (by omega) ?_
  rw [Nat.cast_mul, Nat.cast_pow, Nat.cast_ofNat, mul_two_pow_mul_zpow]
  congr 2
  omega

/-- Nothing is rounded where all digits behind the first 53 are zeros. -/
theorem isNormal_roundWithAccuracy_of_dvd (s : Sign) (hdvd : 2 ^ (m.log2 - 52) ∣ m)
    (hlog : 52 ≤ m.log2) (hleast : -1022 ≤ m.log2 + e) (hmost : m.log2 + e ≤ 1023)
    (hvalue : (m : ℚ) * 2 ^ e = q) :
    IsNormal s q (roundWithAccuracy Format.binary64 s m e .exact) := by
  have hexact := nearestMultiple_of_dvd hdvd
  have hround := isNormal_roundWithAccuracy s hlog hleast (by rwa [hexact])
  rwa [hexact, hvalue] at hround

/-- Nothing is lost in the bits. -/
theorem IsNormal.unpack_pack (h : IsNormal s q u) :
    IsNormal s q (UnpackedFloat.unpack Format.binary64 (UnpackedFloat.pack Format.binary64 u)) := by
  cases h with
  | @finite m e hm hlog hleast hmost hvalue =>
    have hfits : ¬ 2 ^ 11 ≤ (e + Format.binary64.exponentBias + (52 : Nat)).toNat + 1 := by
      simp only [Format.exponentBias]
      omega
    have hexponent :
        ((e + Format.binary64.exponentBias + (52 : Nat)).toNat : Int) - 1075 = e := by
      simp only [Format.exponentBias]
      omega
    have hmantissa : (1#1 ++ BitVec.ofNat 52 m).toNat = m := by
      obtain ⟨hlower, hupper⟩ := (Nat.log2_eq_iff (Nat.ne_of_gt hm)).1 hlog
      rw [toNat_append_one, BitVec.toNat_ofNat]
      omega
    unfold UnpackedFloat.pack
    dsimp only
    rw [if_neg hfits, if_pos (by rw [hlog]; rfl), unpack_packComponents s _ (by omega) (by omega)]
    exact .finite (hmantissa.symm ▸ hlog) (by omega) (by omega) (by rw [hmantissa, hexponent, hvalue])

theorem IsNormal.neg (h : IsNormal s q u) : IsNormal (-s) q u.neg := by
  cases h with
  | finite hlog hleast hmost hvalue => exact .finite hlog hleast hmost hvalue

/-! Whole numbers. -/

/-- A whole number rounded to 53 binary digits. -/
def nearestDouble (n : Nat) : Nat := nearestMultiple (2 ^ (n.log2 - 52)) n

theorem nearestDouble_of_log2_le (h : n.log2 ≤ 52) : nearestDouble n = n := by
  rw [nearestDouble, Nat.sub_eq_zero_of_le h]
  exact nearestMultiple_of_dvd (Nat.one_dvd n)

/-- Rounding a number does not bring it to zero, and adds at most one binary digit. -/
theorem nearestDouble_mem (hn : 0 < n) : 0 < nearestDouble n ∧ (nearestDouble n).log2 ≤ n.log2 + 1 := by
  have hstep : 0 < 2 ^ (n.log2 - 52) := Nat.two_pow_pos _
  have hle : 2 ^ (n.log2 - 52) ≤ n := calc
    2 ^ (n.log2 - 52) ≤ 2 ^ n.log2 := Nat.pow_le_pow_right Nat.two_pos (Nat.sub_le _ _)
    _ ≤ n := Nat.log2_self_le (Nat.ne_of_gt hn)
  have hbelow : 1 * 2 ^ (n.log2 - 52) ≤ n / 2 ^ (n.log2 - 52) * 2 ^ (n.log2 - 52) :=
    Nat.mul_le_mul_right _ (Nat.div_pos hle hstep)
  have hdown : n / 2 ^ (n.log2 - 52) * 2 ^ (n.log2 - 52) ≤ n := Nat.div_mul_le_self _ _
  have hnext : (n / 2 ^ (n.log2 - 52) + 1) * 2 ^ (n.log2 - 52) =
      n / 2 ^ (n.log2 - 52) * 2 ^ (n.log2 - 52) + 2 ^ (n.log2 - 52) := Nat.succ_mul _ _
  have hmem : 0 < nearestDouble n ∧ nearestDouble n ≤ 2 * n := by
    obtain ⟨h, -⟩ | ⟨h, -⟩ := nearestMultiple_cases (2 ^ (n.log2 - 52)) n
    · rw [nearestDouble, h]
      omega
    · rw [nearestDouble, h]
      omega
  refine ⟨hmem.1, Nat.le_of_lt_succ ((Nat.log2_lt (Nat.ne_of_gt hmem.1)).2 ?_)⟩
  have hupper : n < 2 ^ (n.log2 + 1) := Nat.lt_log2_self
  have hpow : 2 ^ (n.log2 + 1 + 1) = 2 * 2 ^ (n.log2 + 1) := Nat.pow_succ'
  omega

theorem isNormal_unpackedOfNat (hn : 0 < n) (hlog : n.log2 ≤ 52) :
    IsNormal .positive n (UnpackedFloat.ofNat Format.binary64 n) := by
  have hshifted : (n * 2 ^ (52 - n.log2)).log2 = 52 := by
    rw [log2_mul_two_pow (Nat.ne_of_gt hn)]
    omega
  rw [unpackedOfNat_eq hn]
  refine isNormal_roundWithAccuracy_of_dvd .positive ?_ (by omega) (by omega) (by omega) ?_
  · rw [hshifted]
    exact Nat.one_dvd _
  · rw [Nat.cast_mul, Nat.cast_pow, Nat.cast_ofNat, mul_two_pow_mul_zpow, Int.add_right_neg,
      zpow_zero, mul_one]

theorem isNormal_mul_one (h : IsNormal .positive q x.toModel.unpack) :
    IsNormal .positive q (x * 1.0).toModel.unpack := by
  suffices hproduct : IsNormal .positive q
      (UnpackedFloat.mul Format.binary64 x.toModel.unpack (1.0 : Float).toModel.unpack) from
    hproduct.unpack_pack
  rw [unpack_one]
  generalize x.toModel.unpack = u at h
  cases h with
  | @finite m e hm hlog hleast hmost hvalue =>
    have hshifted := log2_mul_two_pow (Nat.ne_of_gt hm) 52
    refine isNormal_roundWithAccuracy_of_dvd .positive ?_ (by omega) (by omega) (by omega) ?_
    · rw [hshifted, hlog]
      exact Nat.dvd_mul_left _ _
    · rw [Nat.cast_mul, Nat.cast_pow, Nat.cast_ofNat, mul_two_pow_mul_zpow, ← hvalue]
      congr 2
      omega

/-- Zeros behind the digits do not change what a number is rounded to. -/
theorem isNormal_roundWithAccuracy_shifted (hleast : 53 ≤ n.log2) (hmost : n.log2 ≤ 1022) :
    IsNormal .positive (nearestDouble n)
      (roundWithAccuracy Format.binary64 .positive (n * 2 ^ 53) (-53) .exact) := by
  have hn : 0 < n := Nat.pos_of_ne_zero (ne_zero_of_le_log2 (by decide) hleast)
  have hshifted := log2_mul_two_pow (Nat.ne_of_gt hn) 53
  have hnearest : nearestMultiple (2 ^ (n.log2 + 53 - 52)) (n * 2 ^ 53) =
      nearestDouble n * 2 ^ 53 := by
    have hpow : 2 ^ (n.log2 + 53 - 52) = 2 ^ (n.log2 - 52) * 2 ^ 53 := by
      rw [← Nat.pow_add]
      congr 1
      omega
    rw [hpow, nearestMultiple_mul (Nat.two_pow_pos 53), nearestDouble]
  have hvalue : ((nearestDouble n * 2 ^ 53 : Nat) : ℚ) * 2 ^ (-53 : Int) = nearestDouble n := by
    rw [Nat.cast_mul, Nat.cast_pow, Nat.cast_ofNat, mul_two_pow_mul_zpow]
    exact mul_one _
  have hmem := nearestDouble_mem hn
  have hround : IsNormal .positive
      (nearestMultiple (2 ^ ((n * 2 ^ 53).log2 - 52)) (n * 2 ^ 53) * 2 ^ (-53 : Int))
      (roundWithAccuracy Format.binary64 .positive (n * 2 ^ 53) (-53) .exact) := by
    refine isNormal_roundWithAccuracy .positive (by omega) (by omega) ?_
    rw [hshifted, hnearest, log2_mul_two_pow (Nat.ne_of_gt hmem.1)]
    omega
  rwa [hshifted, hnearest, hvalue] at hround

theorem isNormal_ofNat (hn : 0 < n) (hlog : n.log2 ≤ 1022) :
    IsNormal .positive (nearestDouble n) (Float.ofNat n).toModel.unpack := by
  obtain ⟨hsmall, x, hproduct, hx⟩ | ⟨hlarge, hround⟩ := unpack_ofNat hn
  · have hlogSmall : n.log2 ≤ 52 := Nat.le_of_lt_succ ((Nat.log2_lt (Nat.ne_of_gt hn)).2 hsmall)
    rw [hproduct, nearestDouble_of_log2_le hlogSmall]
    refine isNormal_mul_one ?_
    rw [hx]
    exact (isNormal_unpackedOfNat hn hlogSmall).unpack_pack
  · have hlogLarge : 53 ≤ n.log2 := (Nat.le_log2 (Nat.ne_of_gt hn)).2 hlarge
    rw [hround]
    exact (isNormal_roundWithAccuracy_shifted hlogLarge hlog).unpack_pack

/-- A whole number, rounded without its sign. -/
def nearestWhole (n : Int) : Int := n.sign * nearestDouble n.natAbs

theorem unpackedValue?_of_isNormal (h : IsNormal s q u) :
    unpackedValue? u = some (signFactor s * q) := by
  cases h with
  | finite hlog hleast hmost hvalue => rw [unpackedValue?, hvalue]

/-- A whole number as a double is the number rounded to 53 binary digits. -/
theorem floatValue?_ofInt {n : Int} (hlog : n.natAbs.log2 ≤ 1022) :
    floatValue? (Float.ofInt n) = some (nearestWhole n : ℚ) := by
  cases n with
  | ofNat n =>
    obtain rfl | hn := Nat.eq_zero_or_pos n
    · decide +kernel
    · have hsign : (Int.ofNat n).sign = 1 := Int.sign_eq_one_of_pos (Int.ofNat_lt.2 hn)
      rw [floatValue?, Float.ofInt, unpackedValue?_of_isNormal (isNormal_ofNat hn hlog), nearestWhole,
        hsign, Int.one_mul, signFactor, one_mul, Int.cast_natCast]
      rfl
  | negSucc n =>
    have hnormal : IsNormal .negative (nearestDouble n.succ) (Float.ofNat n.succ).neg.toModel.unpack :=
      (isNormal_ofNat n.succ_pos hlog).neg.unpack_pack
    rw [floatValue?, Float.ofInt, unpackedValue?_of_isNormal hnormal, nearestWhole, Int.sign_negSucc,
      Int.neg_one_mul, signFactor, neg_one_mul, Int.cast_neg, Int.cast_natCast]
    rfl

/-! The nearest double. -/

theorem mantissa_lt_of_ofFloat? {d : Dyad} (h : Dyad.ofFloat? x = some d) :
    d.mantissa < 2 ^ 53 := by
  have hfraction : x.toBits.toNat % twoTo 52 < 2 ^ 52 := Nat.mod_lt _ (Nat.two_pow_pos 52)
  have htwoTo : twoTo 52 = 2 ^ 52 := rfl
  unfold Dyad.ofFloat? at h
  dsimp only at h
  split at h
  · contradiction
  · split at h
    · obtain rfl := Option.some.inj h
      dsimp only
      omega
    · obtain rfl := Option.some.inj h
      dsimp only
      omega

theorem abs_sub_nearestDouble_le_multiple (n c : Nat) :
    |(n : ℚ) - nearestDouble n| ≤ |(n : ℚ) - (c * 2 ^ (n.log2 - 52) : Nat)| := by
  have hnear : |(n : Int) - nearestDouble n| ≤ |(n : Int) - (c * 2 ^ (n.log2 - 52) : Nat)| := by
    rw [Int.abs_eq_natAbs, Int.abs_eq_natAbs]
    exact Int.ofNat_le.2 (natAbs_sub_nearestMultiple_le c)
  exact_mod_cast hnear

/-- What 53 binary digits can stand for below an exponent is at most a leading digit with that
exponent. -/
theorem mul_zpow_le_leading {k : Nat} (hm : m < 2 ^ 53) (he : e < k) :
    (m : ℚ) * 2 ^ e ≤ (2 ^ 52 * 2 ^ k : Nat) := calc
  (m : ℚ) * 2 ^ e ≤ 2 ^ 53 * 2 ^ ((k : Int) - 1) := by
    refine mul_le_mul ?_ ?_ (by positivity) (by positivity)
    · exact_mod_cast Nat.le_of_lt hm
    · exact zpow_le_zpow_right₀ one_le_two (by omega)
  _ = (2 ^ 52 * 2 ^ k : Nat) := by
    push_cast
    rw [zpow_sub_one₀ two_ne_zero, zpow_natCast]
    ring

theorem mul_zpow_eq_multiple {k : Nat} (he : k ≤ e) :
    (m : ℚ) * 2 ^ e = (m * 2 ^ (e - k).toNat * 2 ^ k : Nat) := by
  rw [Nat.mul_assoc, ← Nat.pow_add, Nat.cast_mul, Nat.cast_pow, Nat.cast_ofNat, ← zpow_natCast]
  congr 2
  omega

/-- A magnitude with the exponent of a number or a greater one is a multiple of the distance between
doubles there. Any other lies below the leading digit of the number, which is such a multiple. -/
theorem abs_sub_nearestDouble_le (n : Nat) (hm : m < 2 ^ 53) (e : Int) :
    |(n : ℚ) - nearestDouble n| ≤ |(n : ℚ) - m * 2 ^ e| := by
  obtain hsmall | hlarge := Nat.le_total n.log2 52
  · rw [nearestDouble_of_log2_le hsmall, sub_self, abs_zero]
    exact abs_nonneg _
  obtain hexponent | hexponent := Int.lt_or_le e (n.log2 - 52 : Nat)
  · have hleading : (2 ^ 52 * 2 ^ (n.log2 - 52) : Nat) ≤ n := by
      rw [← Nat.pow_add, Nat.add_sub_cancel' hlarge]
      exact Nat.log2_self_le (ne_zero_of_le_log2 (by decide) hlarge)
    have hleading' : ((2 ^ 52 * 2 ^ (n.log2 - 52) : Nat) : ℚ) ≤ n := Nat.cast_le.2 hleading
    calc |(n : ℚ) - nearestDouble n|
        ≤ |(n : ℚ) - (2 ^ 52 * 2 ^ (n.log2 - 52) : Nat)| := abs_sub_nearestDouble_le_multiple n _
      _ = n - (2 ^ 52 * 2 ^ (n.log2 - 52) : Nat) := abs_of_nonneg (sub_nonneg.2 hleading')
      _ ≤ n - m * 2 ^ e := sub_le_sub_left (mul_zpow_le_leading hm hexponent) _
      _ ≤ |(n : ℚ) - m * 2 ^ e| := le_abs_self _
  · rw [mul_zpow_eq_multiple hexponent]
    exact abs_sub_nearestDouble_le_multiple n _

theorem abs_sub_nearestWhole (n : Int) :
    |n - nearestWhole n| = |(n.natAbs : Int) - nearestDouble n.natAbs| := by
  rw [Int.abs_eq_natAbs, Int.abs_eq_natAbs, nearestWhole]
  obtain hneg | rfl | hpos := Int.lt_trichotomy n 0
  · rw [Int.sign_eq_neg_one_of_neg hneg]
    omega
  · decide
  · rw [Int.sign_eq_one_of_pos hpos]
    omega

/-- No double is nearer to a whole number than what it is rounded to. -/
theorem abs_sub_nearestWhole_le {y : Float} (n : Int) (h : floatValue? y = some q) :
    |(n : ℚ) - nearestWhole n| ≤ |(n : ℚ) - q| := by
  obtain ⟨d, hd, rfl⟩ := Dyad.exists_parts h
  have hmagnitude : |d.value| = d.mantissa * 2 ^ d.exponent := by
    have hpos : (0 : ℚ) ≤ d.mantissa * 2 ^ d.exponent := by positivity
    rw [Dyad.value, abs_mul, abs_of_nonneg hpos]
    split <;> simp
  have habs : |(n : ℚ)| = n.natAbs := by
    rw [Nat.cast_natAbs, Int.cast_abs]
  calc |(n : ℚ) - nearestWhole n|
      = |(n.natAbs : ℚ) - nearestDouble n.natAbs| := by
        rw [← Int.cast_sub, ← Int.cast_abs, abs_sub_nearestWhole, Int.cast_abs, Int.cast_sub,
          Int.cast_natCast, Int.cast_natCast]
    _ ≤ |(n.natAbs : ℚ) - d.mantissa * 2 ^ d.exponent| :=
        abs_sub_nearestDouble_le _ (mantissa_lt_of_ofFloat? hd) _
    _ = |(|(n : ℚ)| - |d.value|)| := by rw [habs, hmagnitude]
    _ ≤ |(n : ℚ) - d.value| := abs_abs_sub_abs_le _ _

section Whole

variable {n bound : Int} {y : Float}

theorem natAbs_sub_nearestWhole_le (n : Int) (h : floatValue? y = some (bound : ℚ)) :
    (n - nearestWhole n).natAbs ≤ (n - bound).natAbs := by
  have hnear : |n - nearestWhole n| ≤ |n - bound| := by
    exact_mod_cast abs_sub_nearestWhole_le n h
  rw [Int.abs_eq_natAbs, Int.abs_eq_natAbs] at hnear
  exact Int.ofNat_le.1 hnear

theorem nearestWhole_le (h : floatValue? y = some (bound : ℚ)) (hn : n ≤ bound) :
    nearestWhole n ≤ bound := by
  have hnear := natAbs_sub_nearestWhole_le n h
  omega

theorem le_nearestWhole (h : floatValue? y = some (bound : ℚ)) (hn : bound ≤ n) :
    bound ≤ nearestWhole n := by
  have hnear := natAbs_sub_nearestWhole_le n h
  omega

/-- The number is the value of a double. -/
def IsDouble (n : Int) : Prop := ∃ y, floatValue? y = some (n : ℚ)

/-- The numbers that rounding leaves as they are. -/
theorem nearestWhole_eq_self_iff (hlog : n.natAbs.log2 ≤ 1022) :
    nearestWhole n = n ↔ IsDouble n := by
  constructor
  · intro h
    exact ⟨Float.ofInt n, by rw [floatValue?_ofInt hlog, h]⟩
  · rintro ⟨y, hy⟩
    have hupper := nearestWhole_le hy (Int.le_refl n)
    have hlower := le_nearestWhole hy (Int.le_refl n)
    exact Int.le_antisymm hupper hlower

theorem nearestWhole_eq_self (h : n.natAbs ≤ 2 ^ 53) : nearestWhole n = n := by
  have hdvd : 2 ^ (n.natAbs.log2 - 52) ∣ n.natAbs := by
    obtain hlt | heq := Nat.lt_or_eq_of_le h
    · have hlog : n.natAbs.log2 ≤ 52 := by
        obtain hzero | hzero := Nat.eq_zero_or_pos n.natAbs
        · rw [hzero]
          decide
        · exact Nat.le_of_lt_succ ((Nat.log2_lt (Nat.ne_of_gt hzero)).2 hlt)
      rw [Nat.sub_eq_zero_of_le hlog]
      exact Nat.one_dvd _
    · rw [heq, Nat.log2_two_pow]
      exact Nat.pow_dvd_pow 2 (by decide)
  rw [nearestWhole, nearestDouble, nearestMultiple_of_dvd hdvd, Int.sign_mul_natAbs]

/-- Of the digits behind the first 53, at most half of their weight is lost. -/
theorem two_mul_natAbs_sub_nearestWhole_le {k : Nat} (h : n.natAbs < 2 ^ (k + 53)) :
    2 * (n - nearestWhole n).natAbs ≤ 2 ^ k := by
  have hlog : n.natAbs.log2 - 52 ≤ k := by
    obtain hzero | hzero := Nat.eq_zero_or_pos n.natAbs
    · rw [hzero]
      exact Nat.zero_le k
    · have hlt := (Nat.log2_lt (Nat.ne_of_gt hzero)).2 h
      omega
  have hmagnitude := abs_sub_nearestWhole n
  rw [Int.abs_eq_natAbs, Int.abs_eq_natAbs] at hmagnitude
  calc 2 * (n - nearestWhole n).natAbs
      = 2 * ((n.natAbs : Int) - nearestDouble n.natAbs).natAbs := by
        rw [Int.ofNat.inj hmagnitude]
    _ ≤ 2 ^ (n.natAbs.log2 - 52) := two_mul_natAbs_sub_nearestMultiple_le (Nat.two_pow_pos _)
    _ ≤ 2 ^ k := Nat.pow_le_pow_right Nat.two_pos hlog

/-- The whole number is the value of a double, and no double is nearer to the other number. -/
structure IsNearestDouble (n : Int) (x : Float) (r : Int) : Prop where
  value : floatValue? x = some (r : ℚ)
  nearest : ∀ y q, floatValue? y = some q → |(n : ℚ) - r| ≤ |(n : ℚ) - q|

theorem isNearestDouble_ofInt (hlog : n.natAbs.log2 ≤ 1022) :
    IsNearestDouble n (Float.ofInt n) (nearestWhole n) where
  value := floatValue?_ofInt hlog
  nearest _ _ := abs_sub_nearestWhole_le n

end Whole

end CivicReport
