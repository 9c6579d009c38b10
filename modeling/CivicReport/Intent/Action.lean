/-! The shapes a report can have. -/
namespace CivicReport

inductive Action where
  | list
  | count
  | sum
  | average
  | group
  deriving Repr, DecidableEq, Inhabited

namespace Action

def all : List Action := [list, count, sum, average, group]

def name : Action → String
  | list => "list"
  | count => "count"
  | sum => "sum"
  | average => "average"
  | group => "group"

def named? (s : String) : Option Action := all.find? (·.name == s)

@[simp] theorem named?_name (a : Action) : named? a.name = some a := by cases a <;> decide

/-- Whether the report is a single value computed from all rows. -/
def isAggregate : Action → Bool
  | count | sum | average => true
  | list | group => false

def displayName : Action → String
  | list => "רשימה"
  | count => "ספירה"
  | sum => "סכום"
  | average => "ממוצע"
  | group => "קיבוץ"

end Action

/-- Where an interpretation of a question comes from. -/
inductive Source where
  | model
  | rules
  | fallback
  | caller
  deriving Repr, DecidableEq

namespace Source

def all : List Source := [model, rules, fallback, caller]

def name : Source → String
  | model => "model"
  | rules => "rules"
  | fallback => "fallback"
  | caller => "caller"

def named? (s : String) : Option Source := all.find? (·.name == s)

@[simp] theorem named?_name (s : Source) : named? s.name = some s := by cases s <;> decide

end Source

end CivicReport
