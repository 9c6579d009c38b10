import CivicReport.Store
import Mathlib.Data.List.Forall2

/-!
Faults that differ only in what they tell whoever runs the program, and stores that differ only in
such faults. Nothing that a store does depends on the difference. Main statement: a fetch from two
stores that are alike ends alike, and leaves stores behind that are alike.
-/
namespace CivicReport

/-! Faults. -/

/-- Faults of one variant, whatever they quote. -/
inductive RequestFault.SameVariant : RequestFault → RequestFault → Prop where
  | emptyQuestion : SameVariant .emptyQuestion .emptyQuestion
  | missingField (a b : String) : SameVariant (.missingField a) (.missingField b)
  | unknownDomain (a b : String) : SameVariant (.unknownDomain a) (.unknownDomain b)
  | unknownAction (a b : String) : SameVariant (.unknownAction a) (.unknownAction b)
  | confidenceOutOfRange (a b : String) :
      SameVariant (.confidenceOutOfRange a) (.confidenceOutOfRange b)
  | badShape (a b reason other : String) : SameVariant (.badShape a reason) (.badShape b other)

/-- Failures of one kind, whatever their details and times are. -/
inductive StoreFault.SameKind : StoreFault → StoreFault → Prop where
  | timeout (m n : Nat) : SameKind (.timeout m) (.timeout n)
  | connection (a b : String) : SameKind (.connection a) (.connection b)
  | query (a b : String) : SameKind (.query a) (.query b)
  | notConfigured : SameKind .notConfigured .notConfigured

theorem StoreFault.SameKind.isTransient_eq {f g : StoreFault} (h : f.SameKind g) :
    f.isTransient = g.isTransient := by
  cases h <;> rfl

/-- Faults that a client cannot tell apart: those of requests speak of the same field. -/
inductive Fault.Alike : Fault → Fault → Prop where
  | request {f g : RequestFault} (hvariant : f.SameVariant g) (hfield : f.field = g.field) :
      Alike (.request f) (.request g)
  | interpretation (a b : String) : Alike (.interpretation a) (.interpretation b)
  | store {f g : StoreFault} (h : f.SameKind g) : Alike (.store f) (.store g)
  | same (f : Fault) : Alike f f

/-- Results that are related, or faults that are alike. -/
inductive EndsAlike {α : Type} (Related : α → α → Prop) :
    Except Fault α → Except Fault α → Prop where
  | ok {x y : α} (h : Related x y) : EndsAlike Related (.ok x) (.ok y)
  | error {f g : Fault} (h : f.Alike g) : EndsAlike Related (.error f) (.error g)

/-! Stores. -/

namespace Store

/-- The failures to come are of the same kinds, in the same order. -/
structure Alike (a b : Store) : Prop where
  rows : a.rows = b.rows
  failures : List.Forall₂ StoreFault.SameKind a.failures b.failures
  delay : a.delay = b.delay
  calls : a.calls = b.calls
  last : a.last = b.last

end Store

inductive Attempt.Alike : Attempt → Attempt → Prop where
  | answered (rows : List Row) : Alike (.answered rows) (.answered rows)
  | failed {f g : StoreFault} (h : f.SameKind g) : Alike (.failed f) (.failed g)
  | abandoned : Alike .abandoned .abandoned

namespace Store

variable {a b : Store}

theorem Alike.receive (h : a.Alike b) (s : Statement) : (a.receive s).Alike (b.receive s) :=
  { h with calls := congrArg (· + 1) h.calls, last := rfl }

theorem Alike.finish (h : a.Alike b) :
    a.finish.1.Alike b.finish.1 ∧ a.finish.2.Alike b.finish.2 := by
  have hfailures := h.failures
  unfold Store.finish
  cases ha : a.failures with
  | nil =>
    rw [ha] at hfailures
    rw [List.forall₂_nil_left_iff.1 hfailures, h.rows]
    exact ⟨.answered _, h⟩
  | cons f rest =>
    rw [ha] at hfailures
    obtain ⟨g, others, hkind, hrest, hb⟩ := List.forall₂_cons_left_iff.1 hfailures
    rw [hb]
    exact ⟨.failed hkind, { h with failures := hrest }⟩

/-- One attempt takes the same time and has an end of the same kind. -/
theorem Alike.attempt (h : a.Alike b) (timeout : Nat) (s : Statement) (p : Patience) :
    (a.attempt timeout s p).1.Alike (b.attempt timeout s p).1 ∧
      (a.attempt timeout s p).2.1.Alike (b.attempt timeout s p).2.1 ∧
      (a.attempt timeout s p).2.2 = (b.attempt timeout s p).2.2 := by
  have hreceived := h.receive s
  unfold Store.attempt
  dsimp only
  rw [hreceived.delay]
  cases p.after? (min (b.receive s).delay timeout) with
  | none => exact ⟨.abandoned, hreceived, rfl⟩
  | some left =>
    dsimp only
    split
    · obtain ⟨hend, hstore⟩ := hreceived.finish
      exact ⟨hend, hstore, rfl⟩
    · exact ⟨.failed (.timeout _ _), hreceived, rfl⟩

/-- One round: the first attempts settle the matter alike, or both leave the rest to one retry less,
with the same patience. -/
theorem Alike.fetch_cases (h : a.Alike b) (policy : RetryPolicy) (s : Statement) (retries : Nat)
    (p : Patience) :
    (EndsAlike Eq (a.fetch policy s retries p).1 (b.fetch policy s retries p).1 ∧
        (a.fetch policy s retries p).2.Alike (b.fetch policy s retries p).2) ∨
      ∃ (n : Nat) (a' b' : Store) (left : Patience), retries = n + 1 ∧ a'.Alike b' ∧
        a.fetch policy s retries p = a'.fetch policy s n left ∧
        b.fetch policy s retries p = b'.fetch policy s n left := by
  obtain ⟨hend, hstore, hleft⟩ := h.attempt policy.timeout s p
  rw [Store.fetch, Store.fetch]
  generalize a.attempt policy.timeout s p = first at *
  generalize b.attempt policy.timeout s p = second at *
  obtain ⟨endA, a', leftA⟩ := first
  obtain ⟨endB, b', leftB⟩ := second
  obtain rfl : leftA = leftB := hleft
  cases hend with
  | answered rows => exact .inl ⟨.ok rfl, hstore⟩
  | abandoned => exact .inl ⟨.error (.same _), hstore⟩
  | @failed f g hkind =>
    dsimp only
    rw [hkind.isTransient_eq]
    cases retries with
    | zero => exact .inl ⟨.error (.store hkind), hstore⟩
    | succ n =>
      cases g.isTransient with
      | false => exact .inl ⟨.error (.store hkind), hstore⟩
      | true =>
        dsimp only
        cases leftA.after? policy.pause with
        | none => exact .inl ⟨.error (.same _), hstore⟩
        | some left => exact .inr ⟨n, a', b', left, rfl, hstore, rfl, rfl⟩

/-- Stores that are alike are asked equally often, and whoever asks can tell no difference. -/
theorem Alike.fetch (h : a.Alike b) (policy : RetryPolicy) (s : Statement) (retries : Nat)
    (p : Patience) :
    EndsAlike Eq (a.fetch policy s retries p).1 (b.fetch policy s retries p).1 ∧
      (a.fetch policy s retries p).2.Alike (b.fetch policy s retries p).2 := by
  induction retries generalizing a b p with
  | zero =>
    rcases h.fetch_cases policy s 0 p with hsettled | ⟨n, _, _, _, hn, -⟩
    · exact hsettled
    · contradiction
  | succ n ih =>
    rcases h.fetch_cases policy s (n + 1) p with hsettled | ⟨m, a', b', left, hm, hrest, ha, hb⟩
    · exact hsettled
    · obtain rfl : n = m := Nat.succ.inj hm
      rw [ha, hb]
      exact ih hrest left

end Store

end CivicReport
