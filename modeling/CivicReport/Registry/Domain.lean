import CivicReport.Intent.FilterKey

/-! Domains that can be asked about, and their fields. -/
namespace CivicReport

inductive FieldKind where
  | integer
  | text
  | currency
  | date
  | enumeration
  | percentage
  deriving Repr, DecidableEq

namespace FieldKind

def all : List FieldKind := [integer, text, currency, date, enumeration, percentage]

def name : FieldKind → String
  | integer => "integer"
  | text => "text"
  | currency => "currency"
  | date => "date"
  | enumeration => "enum"
  | percentage => "percentage"

def named? (s : String) : Option FieldKind := all.find? (·.name == s)

@[simp] theorem named?_name (k : FieldKind) : named? k.name = some k := by cases k <;> decide

def isNumeric : FieldKind → Bool
  | integer | currency | percentage => true
  | text | date | enumeration => false

/-- Whether values can be compared by size. -/
def isOrdered (k : FieldKind) : Bool := k.isNumeric || k == date

end FieldKind

structure Field where
  key : String
  label : String
  kind : FieldKind
  enumValues : Option (List String) := none
  /-- A field of another domain, written with a dot between domain and field. -/
  foreignKey : Option String := none
  filterable : Bool := false
  searchable : Bool := false
  aggregatable : Bool := false
  /-- The field of the same domain that a computed column is taken from. -/
  derivedFrom : Option String := none
  deriving Repr, DecidableEq

def Field.allows (f : Field) (value : String) : Bool :=
  match f.enumValues with
  | some values => values.contains value
  | none => true

structure Domain where
  key : String
  label : String
  description : String := ""
  table : String
  primaryKey : String
  fields : List Field
  defaultFields : List String
  primaryWords : List String := []
  secondaryWords : List String := []
  /-- Marks the domain of questions that fit no other. -/
  isFallback : Bool := false
  deriving Repr, DecidableEq

namespace Domain

def field? (d : Domain) (key : String) : Option Field := d.fields.find? (·.key == key)

/-- The field that amounts are about: the first currency that can be summed, or else the first
number that can. -/
def amountField? (d : Domain) : Option Field :=
  (d.fields.find? fun f => f.aggregatable && f.kind == .currency).or
    (d.fields.find? fun f => f.aggregatable && f.kind.isNumeric)

def accepts (d : Domain) (key : String) : Bool :=
  match FilterKey.read key with
  | .search => true
  | .equals base => (d.field? base).any (·.filterable)
  | .above base | .below base => (d.field? base).any fun f => f.filterable && f.kind.isOrdered

end Domain

end CivicReport
