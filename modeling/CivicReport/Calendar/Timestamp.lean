import CivicReport.Calendar.Date

/-!
Points in time, to the nanosecond, in universal time. Reading accepts any offset and shifts to
universal time; writing gives as many groups of three fraction digits as are needed.
-/
namespace CivicReport

/-- A second of a day; 10^9 nanoseconds or more stand for a leap second after it. -/
structure Timestamp where
  date : Date
  second : Nat
  nanosecond : Nat
  deriving Repr, DecidableEq

namespace Timestamp

def oneSecond : Nat := 1000000000

/-- The point in time that is so many nanoseconds after the beginning of 1970. -/
def ofUnix (nanoseconds : Int) : Timestamp :=
  let seconds := nanoseconds / oneSecond
  ⟨.ofDayNumber (seconds / 86400), (seconds % 86400).toNat, (nanoseconds % oneSecond).toNat⟩

def writeFraction (nanosecond : Nat) : List Char :=
  if nanosecond = 0 then []
  else if nanosecond % 1000000 = 0 then '.' :: paddedDigits 3 (nanosecond / 1000000)
  else if nanosecond % 1000 = 0 then '.' :: paddedDigits 6 (nanosecond / 1000)
  else '.' :: paddedDigits 9 nanosecond

def write (t : Timestamp) : String :=
  let leap := t.nanosecond / oneSecond
  String.ofList <|
    t.date.writeChars ++ 'T' :: paddedDigits 2 (t.second / 3600) ++
    ':' :: paddedDigits 2 (t.second / 60 % 60) ++
    ':' :: paddedDigits 2 (t.second % 60 + leap) ++
    writeFraction (t.nanosecond % oneSecond) ++ ['Z']

/-- White space may stand before a separator. -/
def takeMark? (c : Char) (s : List Char) : Option (List Char) := takeChar? c (Text.trimLeft s)

/-- A date with white space allowed before numbers and hyphens alike. -/
def takeDate? (s : List Char) : Option (Date × List Char) := do
  let (year, s) ← Date.takeYear? s
  let s ← takeMark? '-' s
  let (month, s) ← Date.takePair? s
  let s ← takeMark? '-' s
  let (day, s) ← Date.takePair? s
  let d ← Date.checked? ⟨year, month, day⟩
  pure (d, s)

/-- A fraction of a second in nanoseconds; digits beyond the ninth are dropped. -/
def takeFraction? : List Char → Option (Nat × List Char)
  | '.' :: s =>
    let digits := s.takeWhile isAsciiDigit
    let kept := digits.take 9
    (readNat? kept).map fun n => (n * tenTo (9 - kept.length), s.dropWhile isAsciiDigit)
  | s => some (0, s)

/-- The second of the day and the nanoseconds; a sixtieth second is a leap second. -/
def takeTime? (s : List Char) : Option (Nat × Nat × List Char) := do
  let (hour, s) ← Date.takePair? s
  let s ← takeMark? ':' s
  let (minute, s) ← Date.takePair? s
  let s ← takeMark? ':' s
  let (second, s) ← Date.takePair? s
  let (nanosecond, s) ← takeFraction? s
  if hour < 24 ∧ minute < 60 ∧ second ≤ 60 then
    if second = 60 then pure (hour * 3600 + minute * 60 + 59, oneSecond + nanosecond, s)
    else pure (hour * 3600 + minute * 60 + second, nanosecond, s)
  else none

/-- Two digits, not fewer. -/
def takeTwo? (s : List Char) : Option (Nat × List Char) :=
  let digits := s.take 2
  if digits.length = 2 then (readNat? digits).map fun n => (n, s.drop 2) else none

def takeSign? : List Char → Option (Bool × List Char)
  | '+' :: rest => some (false, rest)
  | '-' :: rest => some (true, rest)
  | '−' :: rest => some (true, rest)
  | _ => none

/-- An offset from universal time in seconds, less than a day. -/
def takeOffset? (s : List Char) : Option (Int × List Char) :=
  if s.take 3 |>.map Char.toUpper |> (· == ['U', 'T', 'C']) then some (0, s.drop 3)
  else match s with
    | 'Z' :: rest => some (0, rest)
    | 'z' :: rest => some (0, rest)
    | s => do
      let (negative, s) ← takeSign? s
      let (hours, s) ← takeTwo? s
      let s := s.dropWhile fun c => c == ':' || Text.isBlank c
      let (minutes, s) ← takeTwo? s
      if hours < 24 ∧ minutes < 60 then
        let seconds : Int := hours * 3600 + minutes * 60
        pure (if negative then -seconds else seconds, s)
      else none

/-- Moves a local time to universal time. An offset is less than a day, so the date moves by one
day at most. -/
def shifted? (date : Date) (second : Nat) (nanosecond : Nat) (offset : Int) : Option Timestamp :=
  let s : Int := second - offset
  if s < 0 then (date.previous.checked?).map (⟨·, (s + 86400).toNat, nanosecond⟩)
  else if 86400 ≤ s then (date.next.checked?).map (⟨·, (s - 86400).toNat, nanosecond⟩)
  else some ⟨date, s.toNat, nanosecond⟩

def read? (text : String) : Option Timestamp := do
  let (date, s) ← takeDate? text.toList
  let s ← match s with
    | c :: rest => if c = 'T' ∨ c = 't' ∨ c = ' ' then some rest else none
    | [] => none
  let (second, nanosecond, s) ← takeTime? s
  let (offset, s) ← takeOffset? (Text.trimLeft s)
  if (Text.trimLeft s).isEmpty then shifted? date second nanosecond offset else none

example : (read? "2024-02-29T23:30:60.5-01:00").map write = some "2024-03-01T00:30:60.500Z" := by
  decide
example : read? "2024-01-01T00:00:00" = none := by decide

end Timestamp

end CivicReport
