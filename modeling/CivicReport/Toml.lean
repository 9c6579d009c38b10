/-!
TOML documents. Every value knows where it begins in the text, and every table how it came about,
because that decides what may still be added to it.
-/
namespace CivicReport

/-- How a table came about: on the way to another one, as part of a dotted key, by a header, or
within braces. -/
inductive TableOrigin where
  | implied
  | dotted
  | header
  | inline
  deriving Repr, DecidableEq

inductive Toml where
  | text (s : String)
  | integer (n : Int)
  | real (x : Float)
  | bool (b : Bool)
  | time
  | array (items : List (Nat × Toml))
  | table (origin : TableOrigin) (entries : List (String × Nat × Toml))
  /-- Tables under one repeated header, the last one first. -/
  | tables (items : List (Nat × Toml))
  deriving Repr, Inhabited

namespace Toml

def lookup (key : String) : List (String × Nat × Toml) → Option (Nat × Toml)
  | [] => none
  | (k, v) :: rest => if k = key then some v else lookup key rest

def put (key : String) (value : Nat × Toml) :
    List (String × Nat × Toml) → List (String × Nat × Toml)
  | [] => [(key, value)]
  | (k, v) :: rest => if k = key then (k, value) :: rest else (k, v) :: put key value rest

/-- A key and where it stands in the text. -/
structure Key where
  name : String
  place : Nat
  deriving Repr, DecidableEq

/-- What stands at the end of a path of keys, and what the tables on the way become. -/
abbrev Edit := List (String × Nat × Toml) → TableOrigin →
  Option (List (String × Nat × Toml) × TableOrigin)

/-- Changes the table at the end of a path. Missing tables on the way are made, and begin where
their keys stand; a dotted key does not go through a table that has a header. -/
def editAt (way : TableOrigin) (edit : Edit) :
    List Key → List (String × Nat × Toml) → TableOrigin →
    Option (List (String × Nat × Toml) × TableOrigin)
  | [], entries, origin => edit entries origin
  | key :: path, entries, origin =>
    match lookup key.name entries with
    | none =>
      (editAt way edit path [] way).map fun t =>
        (put key.name (key.place, table t.2 t.1) entries, origin)
    | some (place, table o inner) =>
      if o = .inline ∨ (way = .dotted ∧ o = .header) then none
      else (editAt way edit path inner o).map fun t =>
        (put key.name (place, table t.2 t.1) entries, origin)
    | some (place, tables ((first, table o inner) :: rest)) =>
      (editAt way edit path inner o).map fun t =>
        (put key.name (place, tables ((first, table t.2 t.1) :: rest)) entries, origin)
    | some _ => none

/-- A line of a document. -/
inductive Line where
  | pair (path : List Key) (key : Key) (place : Nat) (value : Toml)
  | header (path : List Key) (key : Key)
  | repeatedHeader (path : List Key) (key : Key)

/-- Adds a value to a table; a dotted key only adds to tables made by dotted keys. -/
def addPair (plain : Bool) (key : String) (place : Nat) (value : Toml) : Edit :=
  fun entries origin =>
    if (lookup key entries).isSome then none
    else if plain = (origin = .dotted) then none
    else some (put key (place, value) entries, origin)

/-- Opens a table by its header. Only a table that was implied may have been there. -/
def openTable (key : String) (place : Nat) : Edit := fun entries origin =>
  match lookup key entries with
  | none => some (put key (place, table .header []) entries, origin)
  | some (_, table .implied inner) => some (put key (place, table .header inner) entries, origin)
  | some _ => none

def openRepeated (key : String) (place : Nat) : Edit := fun entries origin =>
  let fresh : Nat × Toml := (place, table .header [])
  match lookup key entries with
  | none => some (put key (place, tables [fresh]) entries, origin)
  | some (first, tables items) => some (put key (first, tables (fresh :: items)) entries, origin)
  | some _ => none

/-- A document so far: its entries, and the path of the table that lines go into. -/
structure Draft where
  entries : List (String × Nat × Toml)
  current : List Key

/-- Adds a pair under a path of plain keys, and then one of dotted keys. -/
def Draft.addPair? (d : Draft) (path : List Key) (key : Key) (place : Nat) (value : Toml) :
    Option Draft :=
  let within : Edit := fun entries origin =>
    editAt .dotted (addPair path.isEmpty key.name place value) path entries origin
  (editAt .implied within d.current d.entries .header).map fun t => { d with entries := t.1 }

/-- Adds a line that begins at `place`, if the document permits it. -/
def Draft.add? (d : Draft) (place : Nat) : Line → Option Draft
  | .pair path key valuePlace value => d.addPair? path key valuePlace value
  | .header path key =>
    (editAt .implied (openTable key.name place) path d.entries .header).map fun t =>
      ⟨t.1, path ++ [key]⟩
  | .repeatedHeader path key =>
    (editAt .implied (openRepeated key.name place) path d.entries .header).map fun t =>
      ⟨t.1, path ++ [key]⟩

end Toml

end CivicReport
