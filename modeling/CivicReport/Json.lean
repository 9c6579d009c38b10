import CivicReport.Decimal.Exact

/-!
JSON values. Integers and other numbers are kept apart, and objects keep their members in the
order given.
-/
namespace CivicReport

inductive Number where
  | whole (n : Int)
  | real (x : Float)
  deriving Repr, DecidableEq

namespace Number

def toFloat : Number → Float
  | whole n => Float.ofInt n
  | real x => x

/-- The value as an integer of 64 bits, for numbers written as integers. -/
def int64? : Number → Option Int64
  | whole n => CivicReport.int64? n
  | real _ => none

end Number

inductive Json where
  | null
  | bool (b : Bool)
  | number (n : Number)
  | text (s : String)
  | array (items : List Json)
  | object (members : List (String × Json))
  deriving Repr, Inhabited

namespace Json

/-- The value of the first member with a key. -/
def lookup (key : String) : List (String × Json) → Option Json
  | [] => none
  | (k, v) :: rest => if k = key then some v else lookup key rest

def members? : Json → Option (List (String × Json))
  | object members => some members
  | _ => none

/-- A member of an object; other values have none. -/
def get? (j : Json) (key : String) : Option Json := j.members?.bind (lookup key)

def text? : Json → Option String
  | text s => some s
  | _ => none

def bool? : Json → Option Bool
  | bool b => some b
  | _ => none

def items? : Json → Option (List Json)
  | array items => some items
  | _ => none

def isNull : Json → Bool
  | null => true
  | _ => false

def ofInt (n : Int) : Json := number (.whole n)

/-- A double as a number; infinities and NaN have no JSON number and become null. -/
def ofFloat (x : Float) : Json := if x.isFinite then number (.real x) else null

def ofText? : Option String → Json
  | some s => text s
  | none => null

def texts (items : List String) : Json := array (items.map text)

/-- Puts a member into its place, or at the end if the key is new. -/
def putMember (key : String) (value : Json) : List (String × Json) → List (String × Json)
  | [] => [(key, value)]
  | (k, v) :: rest =>
    if k = key then (k, value) :: rest else (k, v) :: putMember key value rest

mutual

/-- Objects with one member per key: each keeps its first place and its last value. -/
def settled : Json → Json
  | array items => array (settledItems items)
  | object members => object (settledMembers [] members)
  | j => j

def settledItems : List Json → List Json
  | [] => []
  | j :: rest => j.settled :: settledItems rest

def settledMembers (done : List (String × Json)) : List (String × Json) → List (String × Json)
  | [] => done
  | (k, v) :: rest => settledMembers (putMember k v.settled done) rest

end

end Json

end CivicReport
