import CivicReport.Decimal.Reading
import CivicReport.Text.Blank

/-!
Days of the Gregorian calendar, extended to all years between two bounds, and their written form:
year, month and day with hyphens between them. Years outside of 0 to 9999 carry a sign.
-/
namespace CivicReport

structure Date where
  year : Int
  month : Nat
  day : Nat
  deriving Repr, DecidableEq

namespace Date

def leastYear : Int := -262143

def mostYear : Int := 262142

def isLeap (year : Int) : Bool := year % 4 == 0 && (year % 100 != 0 || year % 400 == 0)

def daysIn (year : Int) : Nat → Nat
  | 2 => if isLeap year then 29 else 28
  | 4 | 6 | 9 | 11 => 30
  | _ => 31

/-- The day is one of the calendar. -/
def Exists (d : Date) : Prop :=
  leastYear ≤ d.year ∧ d.year ≤ mostYear ∧ 1 ≤ d.month ∧ d.month ≤ 12 ∧ 1 ≤ d.day ∧
    d.day ≤ daysIn d.year d.month

instance (d : Date) : Decidable d.Exists := by unfold Exists; infer_instance

def checked? (d : Date) : Option Date := if d.Exists then some d else none

def previous (d : Date) : Date :=
  if 1 < d.day then { d with day := d.day - 1 }
  else if 1 < d.month then { d with month := d.month - 1, day := daysIn d.year (d.month - 1) }
  else ⟨d.year - 1, 12, 31⟩

def next (d : Date) : Date :=
  if d.day < daysIn d.year d.month then { d with day := d.day + 1 }
  else if d.month < 12 then { d with month := d.month + 1, day := 1 }
  else ⟨d.year + 1, 1, 1⟩

end Date

/-- Digits of a number, with zeros in front up to a width. -/
def paddedDigits (width n : Nat) : List Char :=
  let digits := Nat.toDigits 10 n
  List.replicate (width - digits.length) '0' ++ digits

/-- A number of at most `most` digits at the start of a text, and the text after it. -/
def takeNumber? (most : Option Nat) (s : List Char) : Option (Nat × List Char) :=
  let digits := s.takeWhile isAsciiDigit
  let digits := match most with
    | some n => digits.take n
    | none => digits
  (readNat? digits).map fun n => (n, s.drop digits.length)

def takeChar? (expected : Char) : List Char → Option (List Char)
  | [] => none
  | c :: rest => if c = expected then some rest else none

namespace Date

def writeYear (year : Int) : List Char :=
  if 0 ≤ year ∧ year ≤ 9999 then paddedDigits 4 year.toNat
  else (if year < 0 then '-' else '+') :: paddedDigits 4 year.natAbs

def writeChars (d : Date) : List Char :=
  writeYear d.year ++ '-' :: paddedDigits 2 d.month ++ '-' :: paddedDigits 2 d.day

def write (d : Date) : String := String.ofList d.writeChars

/-- A year has at most four digits unless it carries a sign. -/
def takeYear? (s : List Char) : Option (Int × List Char) :=
  match Text.trimLeft s with
  | '-' :: rest => (takeNumber? none rest).map fun p => (-(p.1 : Int), p.2)
  | '+' :: rest => (takeNumber? none rest).map fun p => (p.1, p.2)
  | s => (takeNumber? (some 4) s).map fun p => (p.1, p.2)

/-- A number of one or two digits, which white space may precede. -/
def takePair? (s : List Char) : Option (Nat × List Char) := takeNumber? (some 2) (Text.trimLeft s)

/-- A date at the start of a text, in which white space may precede every number. -/
def take? (s : List Char) : Option (Date × List Char) := do
  let (year, s) ← takeYear? s
  let s ← takeChar? '-' s
  let (month, s) ← takePair? s
  let s ← takeChar? '-' s
  let (day, s) ← takePair? s
  let d ← checked? ⟨year, month, day⟩
  pure (d, s)

/-- A whole text as a date. -/
def read? (s : List Char) : Option Date :=
  (take? s).bind fun p => if p.2.isEmpty then some p.1 else none

/-- The day that is so many days after the first of 1970. Years are counted from March on, so that
a leap day comes last, and in eras of 400 years, which have 146097 days. -/
def ofDayNumber (n : Int) : Date :=
  let shifted := n + 719468
  let day := (shifted % 146097).toNat
  let year := (day - day / 1460 + day / 36524 - day / 146096) / 365
  let dayOfYear := day - (365 * year + year / 4 - year / 100)
  let month := (5 * dayOfYear + 2) / 153
  let whole : Int := year + shifted / 146097 * 400
  { year := if month < 10 then whole else whole + 1
    month := if month < 10 then month + 3 else month - 9
    day := dayOfYear - (153 * month + 2) / 5 + 1 }

example : ofDayNumber 0 = ⟨1970, 1, 1⟩ ∧ ofDayNumber 19782 = ⟨2024, 2, 29⟩ ∧
    ofDayNumber (-1) = ⟨1969, 12, 31⟩ := by decide

example : (read? "99- 1-2".toList).map write = some "0099-01-02" := by decide
example : read? "2023-02-29".toList = none ∧ read? "20240-01-01".toList = none := by
  decide
example : (read? "+12024-01-31".toList).map write = some "+12024-01-31" := by decide

end Date

end CivicReport
