import CivicReport.Decimal.Exact

/-!
The fewest decimal digits that read back as the same double, and the text that a format makes of
them. The search is exact: of each decimal grid, from coarse to fine, it tries the two points
next to the number, and the first grid with a point that reads back wins.
-/
namespace CivicReport

/-- Which of two points at the same distance is taken. -/
inductive Tie where
  | toEven
  | upward
  deriving Repr, DecidableEq

/-- A decimal number: `digits * 10 ^ exponent`. -/
structure Digits where
  digits : Nat
  exponent : Int
  deriving Repr, DecidableEq

namespace Digits

def countDigits (n : Nat) : Nat := (Nat.toDigits 10 n).length

/-- Drops the zeros at the end, at most `fuel` of them. -/
def withoutZeros (fuel : Nat) (d : Digits) : Digits :=
  match fuel with
  | 0 => d
  | fuel + 1 =>
    if d.digits ≠ 0 ∧ d.digits % 10 = 0 then withoutZeros fuel ⟨d.digits / 10, d.exponent + 1⟩
    else d

/-- The power of ten of the first digit. -/
def leading (d : Digits) : Int := d.exponent + countDigits d.digits - 1

end Digits

namespace Dyad

/-- The power of ten of the first digit of a number that is not zero. -/
def leading (d : Dyad) : Int :=
  let n := d.numerator
  let m := d.denominator
  if m ≤ n then Digits.countDigits (n / m) - 1
  else -(Digits.countDigits ((m + n - 1) / n - 1) : Int)

/-- Whether the doubles below are closer together than those above. -/
def isLowestOfBinade (d : Dyad) : Bool := d.mantissa == twoTo 52 && -1074 < d.exponent

/-- The point of the grid of step `10 ^ exponent` that reads back as the number and is nearest
to it, if there is one. All lengths are in quarters of the distance to the next double. -/
def onGrid? (d : Dyad) (tie : Tie) (exponent : Int) : Option Digits :=
  let quarter := d.exponent - 2
  let up := twoTo quarter.toNat * tenTo (-exponent).toNat
  let down := twoTo (-quarter).toNat * tenTo exponent.toNat
  let value := 4 * d.mantissa * up
  let least := (4 * d.mantissa - if d.isLowestOfBinade then 1 else 2) * up
  let most := (4 * d.mantissa + 2) * up
  let readsBack (c : Nat) : Bool :=
    if d.mantissa % 2 = 0 then decide (least ≤ c * down ∧ c * down ≤ most)
    else decide (least < c * down ∧ c * down < most)
  let low := value / down
  let high := low + 1
  let lowFits := decide (low ≠ 0) && readsBack low
  let choice : Option Nat :=
    if lowFits && readsBack high then
      let below := value - low * down
      let above := high * down - value
      if below < above then some low
      else if above < below then some high
      else match tie with
        | .upward => some high
        | .toEven => some (if low % 2 = 0 then low else high)
    else if lowFits then some low
    else if readsBack high then some high
    else none
  choice.map (⟨·, exponent⟩)

/-- Seventeen digits are always enough. -/
def shortest (d : Dyad) (tie : Tie) : Digits :=
  let first := d.leading
  let found := (List.range 17).findSome? fun i : Nat => d.onGrid? tie (first - i)
  (found.getD ⟨0, 0⟩).withoutZeros 400

end Dyad

/-- How a format writes numbers. -/
structure NumberStyle where
  tie : Tie
  /-- The powers of ten of the first digit for which no exponent is written. -/
  isPlain : Int → Bool
  /-- What follows a whole number written without exponent. -/
  wholeMark : List Char
  /-- The sign of an exponent that is not negative. -/
  plusSign : List Char

namespace NumberStyle

def plainText (style : NumberStyle) (d : Digits) : List Char :=
  let text := Nat.toDigits 10 d.digits
  if 0 ≤ d.exponent then text ++ List.replicate d.exponent.toNat '0' ++ style.wholeMark
  else
    let places := (-d.exponent).toNat
    let padded := List.replicate (places + 1 - text.length) '0' ++ text
    padded.take (padded.length - places) ++ '.' :: padded.drop (padded.length - places)

def exponentText (style : NumberStyle) (d : Digits) : List Char :=
  let mantissa := match Nat.toDigits 10 d.digits with
    | [] => []
    | [x] => [x]
    | x :: rest => x :: '.' :: rest
  let power := d.leading
  mantissa ++ 'e' :: (if power < 0 then ['-'] else style.plusSign) ++ Nat.toDigits 10 power.natAbs

def write (style : NumberStyle) (x : Float) : String :=
  match Dyad.ofFloat? x with
  | none => if x.isNaN then "NaN" else if x < 0.0 then "-inf" else "inf"
  | some d =>
    let body :=
      if d.mantissa = 0 then '0' :: style.wholeMark
      else
        let s := d.shortest style.tie
        if style.isPlain s.leading then style.plainText s else style.exponentText s
    String.ofList (if d.negative then '-' :: body else body)

/-- Numbers in JSON texts: a fraction or an exponent marks a number that is not an integer. -/
def json : NumberStyle := ⟨.toEven, fun e => -5 ≤ e && e < 16, ['.', '0'], ['+']⟩

/-- Numbers shown to people: never an exponent, and nothing after a whole number. -/
def shown : NumberStyle := ⟨.upward, fun _ => true, [], []⟩

example : json.write 1e16 = "1e+16" ∧ json.write 0.00001 = "0.00001" ∧ json.write 5.0 = "5.0" := by
  decide
example : json.write 1.5e-7 = "1.5e-7" ∧ json.write (0.1 + 0.2) = "0.30000000000000004" := by
  decide
example : shown.write 1e21 = "1000000000000000000000" ∧ shown.write (-0.0) = "-0" := by
  decide

end NumberStyle

/-- A number with a fixed count of places, rounded from its exact value, halves to even. -/
def fixedText (places : Nat) (x : Float) : String :=
  match Dyad.ofFloat? x with
  | none => if x.isNaN then "NaN" else if x < 0.0 then "-inf" else "inf"
  | some d =>
    let n := d.numerator * tenTo places
    let q := n / d.denominator
    let twice := 2 * (n % d.denominator)
    let r :=
      if twice < d.denominator then q
      else if d.denominator < twice then q + 1
      else if q % 2 = 0 then q else q + 1
    let text := Nat.toDigits 10 r
    let padded := List.replicate (places + 1 - text.length) '0' ++ text
    let body :=
      if places = 0 then text
      else padded.take (padded.length - places) ++ '.' :: padded.drop (padded.length - places)
    String.ofList (if d.negative then '-' :: body else body)

example : fixedText 0 62.5 = "62" ∧ fixedText 2 0.005 = "0.01" ∧ fixedText 2 1.0 = "1.00" := by
  decide

end CivicReport
