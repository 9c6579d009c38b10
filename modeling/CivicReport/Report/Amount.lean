import CivicReport.Decimal.Exact

/-!
Amounts as they are shown: rounded to cents, thousands grouped by commas, and no cents where there
are none.
-/
namespace CivicReport.Amount

/-- Puts commas between groups of three digits, counted from the end. -/
def grouped : List Char → List Char
  | [] => []
  | c :: rest =>
    if rest ≠ [] ∧ rest.length % 3 = 0 then c :: ',' :: grouped rest else c :: grouped rest

/-- The whole part as a double. -/
def wholePart (x : Float) : Float :=
  match Dyad.ofFloat? x with
  | none => x
  | some d => Float.ofInt d.truncated

def twoDigits (n : Nat) : List Char :=
  let digits := Nat.toDigits 10 n
  if digits.length < 2 then '0' :: digits else digits

def write (x : Float) : String :=
  let rounded := roundHundredths x.abs
  let whole := wholeUInt64 rounded
  let cents := wholeUInt64 (roundWhole ((rounded - wholePart rounded) * 100.0))
  let sign := if x < 0.0 then ['-'] else []
  let fraction := if cents = 0 then [] else '.' :: twoDigits cents
  String.ofList (sign ++ grouped (Nat.toDigits 10 whole) ++ fraction)

example : write 1234567.5 = "1,234,567.50" ∧ write (-1000.0) = "-1,000" := by decide +kernel

end CivicReport.Amount
