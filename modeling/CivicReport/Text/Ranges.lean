/-! Membership of a code point in a table of ranges. -/
namespace CivicReport.Text

/-- The ranges are closed and in ascending order. -/
def inRanges : List (Nat × Nat) → Nat → Bool
  | [], _ => false
  | (lo, hi) :: rest, n => if n < lo then false else n ≤ hi || inRanges rest n

end CivicReport.Text
