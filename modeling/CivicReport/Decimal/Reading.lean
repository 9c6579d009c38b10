import CivicReport.Decimal.Exact

/-!
Numbers in texts that people write: an optional sign, digits with or without a point, an
optional exponent, and the words for infinity and NaN. Only ASCII digits count.
-/
namespace CivicReport

def digitValue? (c : Char) : Option Nat :=
  if '0' ≤ c ∧ c ≤ '9' then some (c.toNat - '0'.toNat) else none

/-- The value of a hexadecimal digit, in either letter case. -/
def hexValue? (c : Char) : Option Nat :=
  if 'a' ≤ c ∧ c ≤ 'f' then some (c.toNat - 'a'.toNat + 10)
  else if 'A' ≤ c ∧ c ≤ 'F' then some (c.toNat - 'A'.toNat + 10)
  else digitValue? c

/-- The value of ASCII digits, which must not be empty. -/
def readNat? (s : List Char) : Option Nat :=
  if s.isEmpty then none
  else s.foldl (fun acc c => acc.bind fun n => (digitValue? c).map (10 * n + ·)) (some 0)

/-- Splits off a sign; the flag says whether it is a minus. -/
def readSign : List Char → Bool × List Char
  | '-' :: rest => (true, rest)
  | '+' :: rest => (false, rest)
  | s => (false, s)

def readInt? (s : List Char) : Option Int :=
  let (negative, body) := readSign s
  (readNat? body).map fun n => if negative then -(n : Int) else n

/-- An integer that fits 64 bits. -/
def readInt64? (s : List Char) : Option Int64 := (readInt? s).bind int64?

/-- The double nearest to `digits * 10 ^ exponent`. -/
def nearestFloat (digits : Nat) (exponent : Int) : Float :=
  if digits = 0 then 0.0
  else
    let leading := exponent + (Nat.toDigits 10 digits).length
    if 400 < leading then 1.0 / 0.0
    else if leading < -400 then 0.0
    else if 0 ≤ exponent then Float.ofScientific digits false exponent.toNat
    else Float.ofScientific digits true (-exponent).toNat

def isAsciiDigit (c : Char) : Bool := (digitValue? c).isSome

/-- A magnitude without sign: whole digits, a point with further digits, an exponent. At least
one digit stands before the exponent. -/
def readMagnitude? (s : List Char) : Option Float :=
  let whole := s.takeWhile isAsciiDigit
  let rest := s.dropWhile isAsciiDigit
  let (places, rest) := match rest with
    | '.' :: r => (r.takeWhile isAsciiDigit, r.dropWhile isAsciiDigit)
    | r => ([], r)
  (readNat? (whole ++ places)).bind fun digits =>
    match rest with
    | [] => some (nearestFloat digits (-(places.length : Int)))
    | c :: r =>
      if c = 'e' ∨ c = 'E' then
        (readInt? r).map fun e => nearestFloat digits (e - places.length)
      else none

def readFloat? (s : List Char) : Option Float :=
  let (negative, body) := readSign s
  let magnitude := match String.ofList (body.map Char.toLower) with
    | "inf" => some (1.0 / 0.0)
    | "infinity" => some (1.0 / 0.0)
    | "nan" => some (0.0 / 0.0)
    | _ => readMagnitude? body
  magnitude.map fun x => if negative then -x else x

example : readFloat? "1e400".toList = some (1.0 / 0.0) := by decide
example : readFloat? "-.5".toList = some (-0.5) ∧ readFloat? "5.".toList = some 5.0 := by
  decide
example : readFloat? ".".toList = none ∧ readFloat? "1 ".toList = none := by decide
example : readInt64? "+12".toList = some 12 ∧ readInt64? "".toList = none := by decide

end CivicReport
