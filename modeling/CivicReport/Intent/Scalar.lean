import CivicReport.Json
import CivicReport.Decimal.Reading
import CivicReport.Decimal.Shortest
import CivicReport.Text.Blank

/-! The values that filters compare with and that queries bind. -/
namespace CivicReport

inductive Scalar where
  | integer (n : Int64)
  | decimal (x : Float)
  | text (s : String)
  deriving Repr, DecidableEq

namespace Scalar

def int64Text (n : Int64) : String := intText n.toInt

def shown : Scalar → String
  | integer n => int64Text n
  | decimal x => NumberStyle.shown.write x
  | text s => s

/-- As shown, with texts between quotes. -/
def quoted : Scalar → String
  | text s => "'" ++ s ++ "'"
  | v => v.shown

/-- The number a value stands for; commas in texts do not count. -/
def toFloat? : Scalar → Option Float
  | integer n => some (Float.ofInt n.toInt)
  | decimal x => some x
  | text s => readFloat? ((Text.trim s.toList).filter (· != ','))

/-- The integer a value stands for; a whole number beyond 64 bits becomes the nearest bound. -/
def toInt64? : Scalar → Option Int64
  | integer n => some n
  | decimal x => (wholeNumber? x).map fun _ => wholeInt64 x
  | text s => readInt64? (Text.trim s.toList)

/-- An integer if the number is whole and below `2 ^ 63` in magnitude. -/
def ofFloat (x : Float) : Scalar :=
  match wholeNumber? x with
  | some n => if n.natAbs < twoTo 63 then integer (Int64.ofInt n) else decimal x
  | none => decimal x

def toJson : Scalar → Json
  | integer n => Json.ofInt n.toInt
  | decimal x => Json.ofFloat x
  | text s => .text s

/-- Only a JSON integer of 64 bits is an integer here. -/
def ofNumber (n : Number) : Scalar :=
  match n.int64? with
  | some i => integer i
  | none => decimal n.toFloat

def ofJson? : Json → Option Scalar
  | .number n => some (ofNumber n)
  | .text s => some (text s)
  | _ => none

end Scalar

end CivicReport
