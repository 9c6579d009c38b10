import CivicReport.Json
import CivicReport.Decimal.Reading

/-!
Number literals of JSON. An integer that fits 64 bits, with or without sign, is kept exactly.
Any other literal is computed in doubles: as many leading digits as fit an unsigned integer of
64 bits, then one multiplication or division by a power of ten.
-/
namespace CivicReport.Numeral

def mostSignificand : Nat := 18446744073709551615

/-- Appends digits to a significand for as long as it fits; the count tells how many. -/
def absorb (significand : Nat) : List Char → Nat × Nat
  | [] => (significand, 0)
  | c :: rest =>
    let next := 10 * significand + (digitValue? c).getD 0
    if next ≤ mostSignificand then
      let (s, n) := absorb next rest
      (s, n + 1)
    else (significand, 0)

def powerOfTen (n : Nat) : Float := Float.ofScientific 1 false n

/-- Scales by a power of ten, by 308 at a time when it is very small. A result beyond the
largest double is refused. -/
def scale? (fuel : Nat) (f : Float) (exponent : Int) : Option Float :=
  match fuel with
  | 0 => some f
  | fuel + 1 =>
    if 0 ≤ exponent then
      if exponent ≤ 308 then
        let g := f * powerOfTen exponent.toNat
        if g.isInf then none else some g
      else if f == 0.0 then some f else none
    else if -308 ≤ exponent then some (f / powerOfTen (-exponent).toNat)
    else if f == 0.0 then some f
    else scale? fuel (f / powerOfTen 308) (exponent + 308)

/-- The largest exponent whose digits are read; a literal beyond it is out of range or zero. -/
def mostExponent : Nat := 2147483647

def realOf? (negative : Bool) (significand : Nat) (exponent : Int) : Option Number :=
  (scale? 6 (Float.ofNat significand) exponent).map fun f => .real (if negative then -f else f)

/-- The exponent of a literal, with its mark removed. -/
def withExponent? (negative : Bool) (significand : Nat) (start : Int) (s : List Char) :
    Option Number :=
  let (down, digits) := readSign s
  (readNat? digits).bind fun e =>
    if mostExponent < e then
      if significand ≠ 0 ∧ !down then none else some (.real (if negative then -0.0 else 0.0))
    else realOf? negative significand (if down then start - e else start + e)

def isExponentMark (c : Char) : Bool := c == 'e' || c == 'E'

/-- A literal with a fraction; `s` begins after the point. -/
def withFraction? (negative : Bool) (significand : Nat) (start : Int) (s : List Char) :
    Option Number :=
  let places := s.takeWhile isAsciiDigit
  if places.isEmpty then none
  else
    let (significand, n) := absorb significand places
    match s.dropWhile isAsciiDigit with
    | [] => realOf? negative significand (start - n)
    | c :: rest =>
      if isExponentMark c then withExponent? negative significand (start - n) rest else none

/-- Whether a text is a literal, whatever its value. -/
def isLiteral (s : List Char) : Bool :=
  let body := if s.head? = some '-' then s.drop 1 else s
  let digits := body.takeWhile isAsciiDigit
  let (hasPlaces, rest) := match body.dropWhile isAsciiDigit with
    | '.' :: rest => ((rest.head?.any isAsciiDigit), rest.dropWhile isAsciiDigit)
    | rest => (true, rest)
  let hasPower := match rest with
    | [] => true
    | c :: rest => isExponentMark c && (readNat? (readSign rest).2).isSome
  !digits.isEmpty && (digits.length = 1 || digits.head? != some '0') && hasPlaces && hasPower

/-- Reads a whole literal. Minus zero is not an integer, nor is anything below the range of
64-bit integers. -/
def read? (s : List Char) : Option Number :=
  let (negative, body) := match s with
    | '-' :: rest => (true, rest)
    | _ => (false, s)
  let digits := body.takeWhile isAsciiDigit
  if digits.isEmpty || (digits.head? == some '0' && 1 < digits.length) then none
  else
    let (significand, n) := absorb 0 digits
    let exponent : Int := digits.length - n
    match body.dropWhile isAsciiDigit with
    | [] =>
      if exponent ≠ 0 then realOf? negative significand exponent
      else if !negative then some (.whole significand)
      else if significand = 0 ∨ twoTo 63 < significand then
        some (.real (-(Float.ofNat significand)))
      else some (.whole (-(significand : Int)))
    | c :: rest =>
      if c = '.' then withFraction? negative significand exponent rest
      else if isExponentMark c then withExponent? negative significand exponent rest
      else none

example : read? "-0".toList = some (.real (-0.0)) := by decide
example : read? "18446744073709551615".toList = some (.whole 18446744073709551615) := by
  decide
example : read? "1e400".toList = none ∧ read? "01".toList = none := by decide
example : isLiteral "1e400".toList ∧ !isLiteral "01".toList ∧ !isLiteral "1.e2".toList := by
  decide

end CivicReport.Numeral
