import CivicReport.Proofs.Decimal.Rounding
import CivicReport.Proofs.Report.Columns

/-!
Counts and sums of 64 bits in reports. Both are read as doubles, so the cell has the double that is
nearest to the number that came back. Main statement: a cell has the number itself exactly when it is
the value of a double, apart from the ends of the range; up to 2 ^ 53 all numbers are.
-/
namespace CivicReport

/-! Integers of 64 bits as doubles. -/

variable (n : Int64)

theorem natAbs_toInt_le : n.toInt.natAbs ≤ 2 ^ 63 := by
  have hleast := n.le_toInt
  have hmost := n.toInt_lt
  omega

theorem log2_natAbs_toInt : n.toInt.natAbs.log2 ≤ 1022 := by
  obtain hzero | hzero := Nat.eq_zero_or_pos n.toInt.natAbs
  · rw [hzero]
    decide
  · have hlt : n.toInt.natAbs.log2 < 64 := by
      refine (Nat.log2_lt (Nat.ne_of_gt hzero)).2 ?_
      have hle := natAbs_toInt_le n
      omega
    omega

theorem wholeNumber?_ofInt : wholeNumber? (Float.ofInt n.toInt) = some (nearestWhole n.toInt) :=
  wholeNumber?_eq_some_iff.2 (floatValue?_ofInt (log2_natAbs_toInt n))

/-- The bounds of 64 bits, the upper one not included, are doubles. -/
theorem nearestWhole_toInt_mem :
    leastInt64 ≤ nearestWhole n.toInt ∧ nearestWhole n.toInt ≤ mostInt64 + 1 := by
  have hleast : nearestWhole leastInt64 = leastInt64 := by decide +kernel
  have hmost : nearestWhole (mostInt64 + 1) = mostInt64 + 1 := by decide +kernel
  obtain ⟨_, hlower⟩ := (nearestWhole_eq_self_iff (by decide +kernel)).1 hleast
  obtain ⟨_, hupper⟩ := (nearestWhole_eq_self_iff (by decide +kernel)).1 hmost
  exact ⟨le_nearestWhole hlower n.le_toInt, nearestWhole_le hupper (Int.le_of_lt n.toInt_lt)⟩

theorem natAbs_sub_nearestWhole_toInt_le : (n.toInt - nearestWhole n.toInt).natAbs ≤ 512 := by
  obtain hlt | heq := Nat.lt_or_eq_of_le (natAbs_toInt_le n)
  · have hhalf := two_mul_natAbs_sub_nearestWhole_le (k := 10) hlt
    omega
  · have hmost := n.toInt_lt
    have hleast : n.toInt = leastInt64 := by
      rw [leastInt64]
      omega
    rw [hleast]
    decide +kernel

namespace Json

@[simp] theorem ofInt_inj {a b : Int} : ofInt a = ofInt b ↔ a = b := by simp [ofInt]

end Json

namespace Report

/-- Rows whose first one begins with an integer. -/
def rowsWith (key : String) (members : Row) (later : List Row) : List Row :=
  ((key, Json.ofInt n.toInt) :: members) :: later

theorem value?_rowsWith (key : String) (members : Row) (later : List Row) :
    value? (rowsWith n key members later) key = some (Float.ofInt n.toInt) := by
  simp [value?, rowsWith, Json.lookup, number?, Json.ofInt, Number.toFloat]

theorem cellOf_count :
    cellOf .count (some (Float.ofInt n.toInt)) =
      Json.ofInt (min (nearestWhole n.toInt) mostInt64) := by
  obtain ⟨hleast, -⟩ := nearestWhole_toInt_mem n
  have hcut : leastInt64 ≤ min mostInt64 (nearestWhole n.toInt) :=
    Int.le_min.2 ⟨by decide, hleast⟩
  rw [cellOf, Option.getD_some, toInt_wholeInt64 (wholeNumber?_ofInt n), nearestInt64,
    max_eq_right hcut, min_comm]

theorem cellOf_sum :
    cellOf .sum (some (Float.ofInt n.toInt)) =
      if (nearestWhole n.toInt).natAbs < twoTo 63 then Json.ofInt (nearestWhole n.toInt)
      else .number (.real (Float.ofInt n.toInt)) := by
  change numberCell (Float.ofInt n.toInt) = _
  rw [numberCell, wholeNumber?_ofInt]

/-- A count is cut at the largest integer, which lies below the largest double that a count can be
read as. -/
theorem cellOf_count_eq_iff :
    cellOf .count (some (Float.ofInt n.toInt)) = Json.ofInt n.toInt ↔
      nearestWhole n.toInt = n.toInt ∨ n.toInt = mostInt64 := by
  have hmost : n.toInt ≤ mostInt64 := Int.le_of_lt_add_one n.toInt_lt
  have hlargest : nearestWhole mostInt64 = mostInt64 + 1 := by decide +kernel
  rw [cellOf_count, Json.ofInt_inj]
  constructor
  · intro h
    omega
  · rintro (h | h)
    · omega
    · rw [h]
      omega

theorem cellOf_sum_eq_iff :
    cellOf .sum (some (Float.ofInt n.toInt)) = Json.ofInt n.toInt ↔
      nearestWhole n.toInt = n.toInt ∧ n.toInt ≠ leastInt64 := by
  have hleast : leastInt64 ≤ n.toInt := n.le_toInt
  have hmost : n.toInt ≤ mostInt64 := Int.le_of_lt_add_one n.toInt_lt
  have hbound : twoTo 63 = 9223372036854775808 := by decide +kernel
  unfold leastInt64 mostInt64 at *
  rw [cellOf_sum]
  split
  · next hsmall =>
    rw [Json.ofInt_inj]
    constructor
    · intro h
      exact ⟨h, by omega⟩
    · exact And.left
  · next hlarge =>
    constructor
    · intro h
      simp [Json.ofInt] at h
    · rintro ⟨h, hne⟩
      omega

theorem rows_ofRows {a : Action} {key : String} (hkey : aliasOf? a = some key) (rowCap : Nat) (now : Timestamp)
    (members : Row) (later : List Row) (i : Intent) (d : Domain) :
    (ofRows rowCap now (rowsWith n key members later) { i with action := a } d).rows =
      [[(key, cellOf a (some (Float.ofInt n.toInt)))]] := by
  obtain ⟨column, message, -, hbody⟩ :=
    body_of_aliasOf? hkey rowCap (rowsWith n key members later) d
  simp only [ofRows, hbody, value?_rowsWith]

/-- An integer that comes back as a count or as a sum is shown as the nearest double. A count that
would be beyond the largest integer is cut, and a sum that is beyond the integers remains a
double. -/
theorem ofRows_whole (rowCap : Nat) (now : Timestamp) (members : Row) (later : List Row) (i : Intent)
    (d : Domain) :
    let shown (a : Action) (key : String) :=
      (ofRows rowCap now (rowsWith n key members later) { i with action := a } d).rows
    let x := Float.ofInt n.toInt
    let r := nearestWhole n.toInt
    IsNearestDouble n.toInt x r ∧ (n.toInt - r).natAbs ≤ 512 ∧
    (n.toInt.natAbs ≤ 2 ^ 53 → IsDouble n.toInt) ∧
    shown .count "count" = [[("count", Json.ofInt (min r mostInt64))]] ∧
    shown .sum "total_sum" =
      [[("total_sum", if r.natAbs < twoTo 63 then Json.ofInt r else .number (.real x))]] ∧
    (shown .count "count" = [[("count", Json.ofInt n.toInt)]] ↔
      IsDouble n.toInt ∨ n.toInt = mostInt64) ∧
    (shown .sum "total_sum" = [[("total_sum", Json.ofInt n.toInt)]] ↔
      IsDouble n.toInt ∧ n.toInt ≠ leastInt64) := by
  intro shown x r
  have hdouble : r = n.toInt ↔ IsDouble n.toInt := nearestWhole_eq_self_iff (log2_natAbs_toInt n)
  have hcount : shown .count "count" = [[("count", cellOf .count (some x))]] :=
    rows_ofRows n rfl rowCap now members later i d
  have hsum : shown .sum "total_sum" = [[("total_sum", cellOf .sum (some x))]] :=
    rows_ofRows n rfl rowCap now members later i d
  refine ⟨isNearestDouble_ofInt (log2_natAbs_toInt n), natAbs_sub_nearestWhole_toInt_le n,
    fun hsmall => hdouble.1 (nearestWhole_eq_self hsmall), ?_, ?_, ?_, ?_⟩
  · rw [hcount, cellOf_count]
  · rw [hsum, cellOf_sum]
  · rw [hcount, ← hdouble, ← cellOf_count_eq_iff]
    simp [x]
  · rw [hsum, ← hdouble, ← cellOf_sum_eq_iff]
    simp [x]

theorem ofRows_whole_two_pow_53 :
    let n : Int64 := 9007199254740992
    let shown (a : Action) (key : String) :=
      (ofRows 100 ⟨⟨2024, 5, 20⟩, 0, 0⟩ [[(key, Json.ofInt n.toInt)]] { summing with action := a }
        Registry.transactions).rows
    n.toInt.natAbs ≤ 2 ^ 53 ∧
      shown .count "count" = [[("count", Json.ofInt n.toInt)]] ∧
      shown .sum "total_sum" = [[("total_sum", Json.ofInt n.toInt)]] := by
  intro n shown
  obtain ⟨-, -, hdense, -, -, hcount, hsum⟩ :=
    ofRows_whole n 100 ⟨⟨2024, 5, 20⟩, 0, 0⟩ [] [] summing Registry.transactions
  have hsmall : n.toInt.natAbs ≤ 2 ^ 53 := by decide
  have hdouble : IsDouble n.toInt := hdense hsmall
  exact ⟨hsmall, hcount.2 (.inl hdouble), hsum.2 ⟨hdouble, by decide⟩⟩

/-- The next integer lies between two doubles. -/
theorem ofRows_between_doubles :
    let n : Int64 := 9007199254740993
    let shown (a : Action) (key : String) :=
      (ofRows 100 ⟨⟨2024, 5, 20⟩, 0, 0⟩ [[(key, Json.ofInt n.toInt)]] { summing with action := a }
        Registry.transactions).rows
    shown .count "count" = [[("count", Json.ofInt 9007199254740992)]] ∧
      shown .count "count" ≠ [[("count", Json.ofInt n.toInt)]] ∧
      shown .sum "total_sum" = [[("total_sum", Json.ofInt 9007199254740992)]] ∧
      shown .sum "total_sum" ≠ [[("total_sum", Json.ofInt n.toInt)]] := by
  intro n shown
  have hn : n.toInt = 9007199254740993 := by decide
  have hr : nearestWhole n.toInt = 9007199254740992 := by decide +kernel
  have hcount : shown .count "count" = [[("count", Json.ofInt 9007199254740992)]] := by
    have h := rows_ofRows n (rfl : aliasOf? .count = some "count") 100 ⟨⟨2024, 5, 20⟩, 0, 0⟩ [] []
      summing Registry.transactions
    rw [cellOf_count, hr] at h
    exact h
  have hsum : shown .sum "total_sum" = [[("total_sum", Json.ofInt 9007199254740992)]] := by
    have h := rows_ofRows n (rfl : aliasOf? .sum = some "total_sum") 100 ⟨⟨2024, 5, 20⟩, 0, 0⟩ [] []
      summing Registry.transactions
    rw [cellOf_sum, hr, if_pos (by decide +kernel)] at h
    exact h
  refine ⟨hcount, ?_, hsum, ?_⟩
  · rw [hcount, hn]
    simp
  · rw [hsum, hn]
    simp

end Report

end CivicReport
