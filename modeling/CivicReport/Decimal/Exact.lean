/-!
The exact value of a finite double, and the roundings that are defined by it: to a whole number
with halves away from zero, to two places, and into a range of integers.
-/
namespace CivicReport

def twoTo (n : Nat) : Nat := Nat.pow 2 n

def tenTo (n : Nat) : Nat := Nat.pow 10 n

/-- A sign and a natural number times a power of two. -/
structure Dyad where
  negative : Bool
  mantissa : Nat
  exponent : Int
  deriving Repr, DecidableEq

namespace Dyad

/-- The exponent field is 2047 for infinities and NaN, and 0 for numbers without hidden bit. -/
def ofFloat? (x : Float) : Option Dyad :=
  let bits : Nat := x.toBits.toNat
  let negative := bits / twoTo 63 == 1
  let field : Nat := bits / twoTo 52 % twoTo 11
  let fraction : Nat := bits % twoTo 52
  if field = 2047 then none
  else if field = 0 then some ⟨negative, fraction, -1074⟩
  else some ⟨negative, twoTo 52 + fraction, (field : Int) - 1075⟩

/-- The magnitude is `numerator / denominator`. -/
def numerator (d : Dyad) : Nat := d.mantissa * twoTo d.exponent.toNat

def denominator (d : Dyad) : Nat := twoTo (-d.exponent).toNat

theorem denominator_pos (d : Dyad) : 0 < d.denominator := Nat.two_pow_pos _

def signed (d : Dyad) (n : Nat) : Int := if d.negative then -(n : Int) else n

def isWhole (d : Dyad) : Bool := d.numerator % d.denominator == 0

/-- The whole part, with the sign of the number. -/
def truncated (d : Dyad) : Int := d.signed (d.numerator / d.denominator)

/-- The magnitude as a whole number, halves away from zero. -/
def rounded (d : Dyad) : Nat := (2 * d.numerator + d.denominator) / (2 * d.denominator)

end Dyad

/-- The whole number that a double is, if it is one. -/
def wholeNumber? (x : Float) : Option Int :=
  (Dyad.ofFloat? x).bind fun d => if d.isWhole then some d.truncated else none

/-- The nearest whole number, halves away from zero; the sign of zero is kept. -/
def roundWhole (x : Float) : Float :=
  match Dyad.ofFloat? x with
  | none => x
  | some d => if d.negative then -(Float.ofNat d.rounded) else Float.ofNat d.rounded

/-- Rounds to two places by way of the hundredfold. -/
def roundHundredths (x : Float) : Float := roundWhole (x * 100.0) / 100.0

/-- The whole part of a double, held between two bounds; NaN counts as zero. -/
def wholeWithin (least most : Int) (x : Float) : Int :=
  match Dyad.ofFloat? x with
  | some d => max least (min most d.truncated)
  | none => if x.isNaN then 0 else if x < 0.0 then least else most

def leastInt64 : Int := -9223372036854775808

def mostInt64 : Int := 9223372036854775807

def mostUInt64 : Int := 18446744073709551615

def wholeInt64 (x : Float) : Int64 := Int64.ofInt (wholeWithin leastInt64 mostInt64 x)

def wholeUInt64 (x : Float) : Nat := (wholeWithin 0 mostUInt64 x).toNat

/-- The integer of 64 bits with this value, if there is one. -/
def int64? (n : Int) : Option Int64 :=
  if leastInt64 ≤ n ∧ n ≤ mostInt64 then some (Int64.ofInt n) else none

def natText (n : Nat) : String := String.ofList (Nat.toDigits 10 n)

def intText (n : Int) : String :=
  if n < 0 then "-" ++ natText n.natAbs else natText n.natAbs

example : roundWhole 2.5 = 3.0 ∧ roundWhole (-0.4) = -0.0 := by decide
example : wholeNumber? 1e3 = some 1000 ∧ wholeNumber? 0.5 = none := by decide
example : wholeInt64 1e300 = Int64.maxValue ∧ wholeInt64 (-1.9) = -1 := by decide +kernel
example : intText (-70) = "-70" := by decide

end CivicReport
