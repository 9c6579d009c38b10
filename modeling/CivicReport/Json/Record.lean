import CivicReport.Json

/-!
Reading records from JSON. The fields of a record come from an object by name, or from an array
by position. An object must not name a field twice, and names that the record does not have are
ignored. An array may leave out fields at its end, and must not go on after the last one. Main
statement: a list is read back if its items are.
-/
namespace CivicReport.Json

/-- Whether a name that the record has occurs twice among the members. -/
def repeats (names : List String) (members : List (String × Json)) : Bool :=
  names.any fun name => 1 < (members.filter (·.1 == name)).length

/-- The value of each field, or nothing where it is absent. -/
def fields? (names : List String) : Json → Option (List (Option Json))
  | object members =>
    if repeats names members then none else some (names.map fun name => lookup name members)
  | array items =>
    if items.length ≤ names.length then
      some (items.map some ++ List.replicate (names.length - items.length) none)
    else none
  | _ => none

def required {α : Type} (read : Json → Option α) : Option Json → Option α
  | some j => read j
  | none => none

def withDefault {α : Type} (default : α) (read : Json → Option α) : Option Json → Option α
  | some j => read j
  | none => some default

/-- A field that may be absent or null. -/
def optional {α : Type} (read : Json → Option α) : Option Json → Option (Option α)
  | some null => some none
  | some j => (read j).map some
  | none => some none

/-- A list of values that all read. -/
def list? {α : Type} (read : Json → Option α) (j : Json) : Option (List α) :=
  j.items?.bind fun items => items.mapM read

theorem mapM_map_eq_some {α : Type} {read : Json → Option α} {write : α → Json}
    (h : ∀ a, read (write a) = some a) (items : List α) :
    (items.map write).mapM read = some items := by
  induction items with
  | nil => rfl
  | cons a rest ih => simp [h, ih]

theorem list?_array_map {α : Type} {read : Json → Option α} (write : α → Json)
    (h : ∀ a, read (write a) = some a) (items : List α) :
    (array (items.map write)).list? read = some items :=
  mapM_map_eq_some h items

def texts? (j : Json) : Option (List String) := j.list? text?

@[simp] theorem texts?_texts (items : List String) : (texts items).texts? = some items :=
  list?_array_map text (fun _ => rfl) items

def float? : Json → Option Float
  | number n => some n.toFloat
  | _ => none

/-- A number written as an integer of 64 bits. -/
def int64? : Json → Option Int64
  | number n => n.int64?
  | _ => none

/-- A number written as an integer, from zero to the largest unsigned one of 64 bits. -/
def count? : Json → Option Nat
  | number (.whole n) => if 0 ≤ n ∧ n < 18446744073709551616 then some n.toNat else none
  | _ => none

/-- A name out of a fixed set: a text, or an object with the name as its only key over null. -/
def tag? : Json → Option String
  | text s => some s
  | object [(key, null)] => some key
  | _ => none

/-- A name as the parts of an outcome have it, where an empty object counts like null. -/
def innerTag? : Json → Option String
  | object [(key, object [])] => some key
  | j => j.tag?

end CivicReport.Json
