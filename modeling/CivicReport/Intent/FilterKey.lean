/-!
Filter keys: a field, a field with a comparison, or the reserved key of free text. Main
statements: a key is written back as it was read, and a comparison on a named field is read back
as itself.
-/
namespace CivicReport

inductive FilterKey where
  | search
  | equals (field : String)
  | above (field : String)
  | below (field : String)
  deriving Repr, DecidableEq

namespace FilterKey

def searchKey : String := "search"

def aboveSuffix : String := "_gt"

def belowSuffix : String := "_lt"

/-- The text before a suffix, if it is there and something precedes it. -/
def baseOf? (suffix key : String) : Option String :=
  let s := key.toList
  let n := s.length - suffix.toList.length
  if n ≠ 0 ∧ s.drop n = suffix.toList then some (String.ofList (s.take n)) else none

theorem eq_append_of_baseOf? {suffix key base : String} (h : baseOf? suffix key = some base) :
    key = base ++ suffix := by
  simp only [baseOf?] at h
  split at h
  · next c =>
    obtain rfl := Option.some.inj h
    have hsplit := List.take_append_drop (key.toList.length - suffix.toList.length) key.toList
    rw [c.2] at hsplit
    exact String.toList_inj.1 (by simpa using hsplit.symm)
  · exact absurd h (by simp)

theorem baseOf?_append {base suffix : String} (h : base ≠ "") :
    baseOf? suffix (base ++ suffix) = some base := by
  have hne : base.toList ≠ [] := fun hn => h (String.toList_inj.1 (by simpa using hn))
  have hn : base.toList.length ≠ 0 := by simpa using hne
  simp [baseOf?, hn]

def read (key : String) : FilterKey :=
  if key = searchKey then search
  else match baseOf? aboveSuffix key with
    | some base => above base
    | none => match baseOf? belowSuffix key with
      | some base => below base
      | none => equals key

def write : FilterKey → String
  | search => searchKey
  | equals field => field
  | above field => field ++ aboveSuffix
  | below field => field ++ belowSuffix

/-- The field a key speaks of; the key of free text speaks of none. -/
def base? : FilterKey → Option String
  | search => none
  | equals field | above field | below field => some field

theorem write_read (key : String) : (read key).write = key := by
  simp only [read]
  split
  · next h => simp [write, h]
  · split
    · next h => simp [write, eq_append_of_baseOf? h]
    · split
      · next h => simp [write, eq_append_of_baseOf? h]
      · rfl

example : read "_gt" = equals "_gt" ∧ read "x_gt_lt" = below "x_gt" := by decide

end FilterKey

end CivicReport
