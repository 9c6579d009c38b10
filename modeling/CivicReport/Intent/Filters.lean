import CivicReport.Intent.Scalar

/-!
Filters in the order of their keys. Keys are compared by code points, which is also the order of
their bytes. Main statements: what a key holds after an insertion, and that the entries stay in
order.
-/
namespace CivicReport

structure Filters where
  entries : List (String × Scalar)
  ordered : entries.Pairwise fun a b => a.1 < b.1

namespace Filters

def empty : Filters := ⟨[], .nil⟩

def insertEntry (key : String) (value : Scalar) :
    List (String × Scalar) → List (String × Scalar)
  | [] => [(key, value)]
  | (k, v) :: rest =>
    if key < k then (key, value) :: (k, v) :: rest
    else if key = k then (key, value) :: rest
    else (k, v) :: insertEntry key value rest

theorem mem_insertEntry {key : String} {value : Scalar} {entries : List (String × Scalar)}
    {e : String × Scalar} (h : e ∈ insertEntry key value entries) :
    e = (key, value) ∨ e ∈ entries := by
  induction entries with
  | nil => simpa [insertEntry] using h
  | cons head rest ih =>
    simp only [insertEntry] at h
    split at h
    · simpa using h
    · split at h
      · rcases List.mem_cons.1 h with h | h
        · exact .inl h
        · exact .inr (List.mem_cons_of_mem _ h)
      · rcases List.mem_cons.1 h with h | h
        · exact .inr (h ▸ List.mem_cons_self)
        · rcases ih h with h | h
          · exact .inl h
          · exact .inr (List.mem_cons_of_mem _ h)

theorem lt_of_not_lt_of_ne {a b : String} (h : ¬ a < b) (hne : a ≠ b) : b < a := by
  rcases Std.lt_trichotomy a b with h' | h' | h'
  · exact absurd h' h
  · exact absurd h' hne
  · exact h'

theorem ordered_insertEntry {key : String} {value : Scalar} {entries : List (String × Scalar)}
    (h : entries.Pairwise fun a b => a.1 < b.1) :
    (insertEntry key value entries).Pairwise fun a b => a.1 < b.1 := by
  induction entries with
  | nil => simp [insertEntry]
  | cons head rest ih =>
    obtain ⟨hhead, hrest⟩ := List.pairwise_cons.1 h
    simp only [insertEntry]
    split
    · next hlt =>
      refine List.pairwise_cons.2 ⟨fun e he => ?_, h⟩
      rcases List.mem_cons.1 he with rfl | he
      · exact hlt
      · exact String.lt_trans hlt (hhead e he)
    · split
      · next heq => exact List.pairwise_cons.2 ⟨fun e he => heq ▸ hhead e he, hrest⟩
      · next hlt hne =>
        refine List.pairwise_cons.2 ⟨fun e he => ?_, ih hrest⟩
        rcases mem_insertEntry he with rfl | he
        · exact lt_of_not_lt_of_ne hlt hne
        · exact hhead e he

/-- Puts a value under a key, in place of the one that is there. -/
def insert (f : Filters) (key : String) (value : Scalar) : Filters :=
  ⟨insertEntry key value f.entries, ordered_insertEntry f.ordered⟩

def get? (f : Filters) (key : String) : Option Scalar :=
  (f.entries.find? (·.1 == key)).map (·.2)

theorem find?_insertEntry (key k : String) (value : Scalar) (entries : List (String × Scalar)) :
    (insertEntry key value entries).find? (·.1 == k) =
      if key = k then some (key, value) else entries.find? (·.1 == k) := by
  induction entries with
  | nil => by_cases h : key = k <;> simp [insertEntry, h]
  | cons head rest ih =>
    obtain ⟨first, v⟩ := head
    simp only [insertEntry]
    split
    · by_cases h : key = k <;> simp [h]
    · split
      · next heq => by_cases h : key = k <;> simp_all
      · next hne =>
        by_cases hk : first = k
        · subst hk
          simp [hne]
        · simp [hk, ih]

@[simp] theorem get?_empty (k : String) : empty.get? k = none := rfl

@[simp] theorem get?_insert (f : Filters) (key k : String) (value : Scalar) :
    (f.insert key value).get? k = if key = k then some value else f.get? k := by
  simp only [get?, insert, find?_insertEntry]
  split <;> rfl

def contains (f : Filters) (key : String) : Bool := f.entries.any (·.1 == key)

def keys (f : Filters) : List String := f.entries.map (·.1)

def size (f : Filters) : Nat := f.entries.length

def isEmpty (f : Filters) : Bool := f.entries.isEmpty

/-- The later of two values for one key stays. -/
def ofList (entries : List (String × Scalar)) : Filters :=
  entries.foldl (fun f e => f.insert e.1 e.2) empty

def toJson (f : Filters) : Json := .object (f.entries.map fun e => (e.1, e.2.toJson))

end Filters

end CivicReport
