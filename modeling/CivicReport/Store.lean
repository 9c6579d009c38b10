import CivicReport.Fault
import CivicReport.Query.Plan
import CivicReport.Json

/-!
A store that answers every query with the same rows after the same delay, and can be told to fail
first. It remembers how often it was asked and what it was asked last. Queries are tried again
after failures that may pass; all times are in milliseconds.
-/
namespace CivicReport

/-- A row, with its values in the order of the columns of the query. -/
abbrev Row := List (String × Json)

structure Store where
  rows : List Row
  /-- The failures to come, each for one query that runs to its end. -/
  failures : List StoreFault := []
  delay : Nat := 0
  calls : Nat := 0
  last : Option Statement := none

/-- The time until whoever asked gives up; none stands for never. -/
abbrev Patience := Option Nat

namespace Patience

/-- What is left after a wait, unless the wait is longer. -/
def after? : Patience → Nat → Option Patience
  | none, _ => some none
  | some left, wait => if wait ≤ left then some (some (left - wait)) else none

/-- The request was given up before it began. -/
def isOver (p : Patience) : Bool := p == some 0

end Patience

/-- How long one attempt may take, how often it is repeated, and the pause before that. -/
structure RetryPolicy where
  timeout : Nat := 15000
  retries : Nat := 1
  pause : Nat := 200
  deriving Repr, DecidableEq

inductive Attempt where
  | answered (rows : List Row)
  | failed (fault : StoreFault)
  | abandoned

namespace Store

/-- The name of the store, which answers from what it was given. -/
def name : String := "static"

/-- The query has arrived. -/
def receive (store : Store) (s : Statement) : Store :=
  { store with calls := store.calls + 1, last := some s }

/-- The query has run to its end. -/
def finish (store : Store) : Attempt × Store :=
  match store.failures with
  | [] => (.answered store.rows, store)
  | fault :: rest => (.failed fault, { store with failures := rest })

/-- One attempt, with the patience that is left. -/
def attempt (timeout : Nat) (s : Statement) (store : Store) (p : Patience) :
    Attempt × Store × Patience :=
  let store := store.receive s
  match p.after? (min store.delay timeout) with
  | none => (.abandoned, store, some 0)
  | some left =>
    if store.delay ≤ timeout then
      let (outcome, store) := store.finish
      (outcome, store, left)
    else (.failed (.timeout timeout), store, left)

/-- Attempts until one succeeds, fails for good, or was the last one permitted. -/
def fetch (policy : RetryPolicy) (s : Statement) :
    Nat → Store → Patience → Except Fault (List Row) × Store
  | retries, store, p =>
    match store.attempt policy.timeout s p with
    | (.answered rows, store, _) => (.ok rows, store)
    | (.abandoned, store, _) => (.error .cancelled, store)
    | (.failed fault, store, p) =>
      match retries, fault.isTransient with
      | n + 1, true =>
        match p.after? policy.pause with
        | none => (.error .cancelled, store)
        | some p => fetch policy s n store p
      | _, _ => (.error (.store fault), store)

end Store

end CivicReport
