import CivicReport.Decimal.Reading
import Mathlib.Algebra.Group.Int.Defs
import Mathlib.Algebra.Group.Nat.Defs

/-! Decimal digits. The digits of a natural number are read back as that number. -/
namespace CivicReport

theorem isAsciiDigit_eq (c : Char) : isAsciiDigit c = c.isDigit := by
  rw [isAsciiDigit, digitValue?, Char.isDigit, Bool.eq_iff_iff]
  split
  · next h => simpa [Char.le_def] using h
  · next h => simpa [Char.le_def] using h

theorem isAsciiDigit_of_mem_toDigits {n : Nat} {c : Char} (h : c ∈ Nat.toDigits 10 n) :
    isAsciiDigit c = true := by
  rw [isAsciiDigit_eq]
  exact Nat.isDigit_of_mem_toDigits (by decide) (by decide) h

theorem digitValue?_of_isAsciiDigit {c : Char} (h : isAsciiDigit c = true) :
    digitValue? c = some (c.toNat - '0'.toNat) := by
  unfold isAsciiDigit digitValue? at h
  unfold digitValue?
  split at h
  · next hc => rw [if_pos hc]
  · contradiction

theorem foldl_digitValue? {s : List Char} (h : ∀ c ∈ s, isAsciiDigit c = true) (start : Nat) :
    s.foldl (fun acc c => acc.bind fun n => (digitValue? c).map (10 * n + ·)) (some start) =
      some (Nat.ofDigitChars 10 s start) := by
  induction s generalizing start with
  | nil => simp
  | cons c rest ih =>
    have hc := digitValue?_of_isAsciiDigit (h c List.mem_cons_self)
    rw [List.foldl_cons, Option.bind_some, hc, Option.map_some, Nat.ofDigitChars_cons]
    exact ih (fun x hx => h x (List.mem_cons_of_mem _ hx)) _

/-- Digits are read as what they are worth. -/
theorem readNat?_of_forall_isAsciiDigit {s : List Char} (hne : s ≠ [])
    (h : ∀ c ∈ s, isAsciiDigit c = true) : readNat? s = some (Nat.ofDigitChars 10 s 0) := by
  rw [readNat?, if_neg (by simpa using hne), foldl_digitValue? h]

/-- Digits are worth less than a power of ten. -/
theorem ofDigitChars_lt {s : List Char} (h : ∀ c ∈ s, isAsciiDigit c = true) (start : Nat) :
    Nat.ofDigitChars 10 s start < (start + 1) * 10 ^ s.length := by
  induction s generalizing start with
  | nil => simp
  | cons c rest ih =>
    have hc : c.toNat - '0'.toNat ≤ 9 := by
      have hdigit := h c List.mem_cons_self
      rw [isAsciiDigit_eq, Char.isDigit, Bool.and_eq_true, decide_eq_true_eq,
        decide_eq_true_eq] at hdigit
      have hhigh : c.toNat ≤ '9'.toNat := hdigit.2
      have hnine : '9'.toNat - '0'.toNat = 9 := rfl
      omega
    rw [Nat.ofDigitChars_cons, List.length_cons]
    calc Nat.ofDigitChars 10 rest (10 * start + (c.toNat - '0'.toNat))
        < (10 * start + (c.toNat - '0'.toNat) + 1) * 10 ^ rest.length :=
          ih (fun x hx => h x (List.mem_cons_of_mem _ hx)) _
      _ ≤ ((start + 1) * 10) * 10 ^ rest.length := Nat.mul_le_mul_right _ (by omega)
      _ = (start + 1) * 10 ^ (rest.length + 1) := by rw [Nat.pow_succ', Nat.mul_assoc]

theorem le_ofDigitChars (s : List Char) (start : Nat) :
    start * 10 ^ s.length ≤ Nat.ofDigitChars 10 s start := by
  induction s generalizing start with
  | nil => simp
  | cons c rest ih =>
    rw [Nat.ofDigitChars_cons, List.length_cons]
    calc start * 10 ^ (rest.length + 1) = 10 * start * 10 ^ rest.length := by
          rw [Nat.pow_succ', ← Nat.mul_assoc, Nat.mul_comm start]
      _ ≤ (10 * start + (c.toNat - '0'.toNat)) * 10 ^ rest.length :=
          Nat.mul_le_mul_right _ (Nat.le_add_right _ _)
      _ ≤ Nat.ofDigitChars 10 rest (10 * start + (c.toNat - '0'.toNat)) := ih _

theorem foldl_digitValue?_none (s : List Char) :
    s.foldl (fun acc c => acc.bind fun n => (digitValue? c).map (10 * n + ·)) none = none := by
  induction s with
  | nil => rfl
  | cons c rest ih => exact ih

theorem isAsciiDigit_of_foldl {s : List Char} {start n : Nat}
    (h : s.foldl (fun acc c => acc.bind fun n => (digitValue? c).map (10 * n + ·)) (some start) =
      some n) : ∀ c ∈ s, isAsciiDigit c = true := by
  induction s generalizing start with
  | nil => exact nofun
  | cons c rest ih =>
    rw [List.foldl_cons, Option.bind_some] at h
    cases hc : digitValue? c with
    | none =>
      rw [hc, Option.map_none, foldl_digitValue?_none] at h
      contradiction
    | some value =>
      rw [hc, Option.map_some] at h
      exact List.forall_mem_cons.2 ⟨by simp [isAsciiDigit, hc], ih h⟩

/-- Nothing but digits is read. -/
theorem isAsciiDigit_of_readNat? {s : List Char} {n : Nat} (h : readNat? s = some n) :
    ∀ c ∈ s, isAsciiDigit c = true := by
  unfold readNat? at h
  split at h
  · contradiction
  · exact isAsciiDigit_of_foldl h

theorem readSign_of_isAsciiDigit {s : List Char} (h : ∀ c ∈ s.head?, isAsciiDigit c = true) :
    readSign s = (false, s) := by
  cases s with
  | nil => rfl
  | cons c rest =>
    have hc : isAsciiDigit c = true := h c rfl
    unfold readSign
    split
    · next heq =>
      cases heq
      exact absurd hc (by decide)
    · next heq =>
      cases heq
      exact absurd hc (by decide)
    · rfl

theorem int64?_eq_some_iff {n : Int} {i : Int64} : int64? n = some i ↔ n = i.toInt := by
  unfold int64?
  split
  · next h =>
    have htoInt : (Int64.ofInt n).toInt = n :=
      Int64.toInt_ofInt_of_le h.1 (Int.lt_add_one_of_le h.2)
    rw [Option.some.injEq]
    constructor
    · rintro rfl
      exact htoInt.symm
    · rintro rfl
      exact Int64.ofInt_toInt i
  · next h =>
    simp only [reduceCtorEq, false_iff]
    rintro rfl
    exact h ⟨i.le_toInt, i.toInt_le⟩

theorem int64?_eq_none_iff {n : Int} : int64? n = none ↔ n < -2 ^ 63 ∨ 2 ^ 63 ≤ n := by
  unfold int64? leastInt64 mostInt64
  split
  · next h =>
    simp only [reduceCtorEq, false_iff]
    omega
  · next h =>
    simp only [true_iff]
    omega

theorem exists_readNat?_of_readInt64? {s : List Char} {n : Int64}
    (hfirst : ∀ c ∈ s.head?, isAsciiDigit c = true) (h : readInt64? s = some n) :
    ∃ k : Nat, readNat? s = some k ∧ n.toInt = k := by
  obtain ⟨m, hm, hint⟩ := Option.bind_eq_some_iff.1 h
  rw [readInt?, readSign_of_isAsciiDigit hfirst] at hm
  dsimp only at hm
  cases hk : readNat? s with
  | none =>
    rw [hk] at hm
    contradiction
  | some k =>
    rw [hk] at hm
    obtain rfl : (k : Int) = m := Option.some.inj hm
    exact ⟨k, rfl, (int64?_eq_some_iff.1 hint).symm⟩

/-- As many digits as always fit 64 bits are read as an integer. -/
theorem exists_readInt64? {s : List Char} (hne : s ≠ []) (hlength : s.length ≤ 18)
    (h : ∀ c ∈ s, isAsciiDigit c = true) : ∃ n, readInt64? s = some n := by
  have hsign : readSign s = (false, s) :=
    readSign_of_isAsciiDigit fun c hc => h c (List.mem_of_mem_head? hc)
  have hlt : Nat.ofDigitChars 10 s 0 < 10 ^ 18 := by
    calc Nat.ofDigitChars 10 s 0 < (0 + 1) * 10 ^ s.length := ofDigitChars_lt h 0
      _ = 10 ^ s.length := by rw [Nat.zero_add, Nat.one_mul]
      _ ≤ 10 ^ 18 := Nat.pow_le_pow_right (by decide) hlength
  have hbounds : leastInt64 ≤ (Nat.ofDigitChars 10 s 0 : Int) ∧
      (Nat.ofDigitChars 10 s 0 : Int) ≤ mostInt64 := by
    unfold leastInt64 mostInt64
    omega
  refine ⟨Int64.ofInt (Nat.ofDigitChars 10 s 0), ?_⟩
  rw [readInt64?, readInt?, hsign]
  simp only [readNat?_of_forall_isAsciiDigit hne h]
  exact if_pos hbounds

theorem readNat?_toDigits (n : Nat) : readNat? (Nat.toDigits 10 n) = some n := by
  rw [readNat?_of_forall_isAsciiDigit Nat.toDigits_ne_nil fun c h => isAsciiDigit_of_mem_toDigits h,
    Nat.ofDigitChars_ten_toDigits]

end CivicReport
