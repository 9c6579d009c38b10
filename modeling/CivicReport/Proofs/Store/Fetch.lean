import CivicReport.Store
import Mathlib.Data.List.Infix

/-!
What a fetch leaves behind in the store. Each attempt counts as a call, notes the statement and
takes at most one of the failures to come. Main statement: whoever never gives up gets the rows or
a failure of the store, after at least one call and at most one more than there are retries.
-/
namespace CivicReport

/-- The store was asked for a statement, at least once and at most so many times. -/
structure Fetched (s : Statement) (most : Nat) (before after : Store) : Prop where
  asked : before.calls < after.calls
  bounded : after.calls ≤ before.calls + most
  last : after.last = some s
  rows : after.rows = before.rows
  delay : after.delay = before.delay
  failures : after.failures <:+ before.failures

theorem Fetched.trans {s : Statement} {m n : Nat} {a b c : Store} (hab : Fetched s m a b)
    (hbc : Fetched s n b c) : Fetched s (m + n) a c where
  asked := hab.asked.trans hbc.asked
  bounded := by
    have hb := hab.bounded
    have hc := hbc.bounded
    omega
  last := hbc.last
  rows := hbc.rows.trans hab.rows
  delay := hbc.delay.trans hab.delay
  failures := hbc.failures.trans hab.failures

theorem Fetched.mono {s : Statement} {m n : Nat} {a b : Store} (h : Fetched s m a b)
    (hmn : m ≤ n) : Fetched s n a b :=
  { h with bounded := h.bounded.trans (Nat.add_le_add_left hmn _) }

theorem Fetched.finish {s : Statement} {most : Nat} {before store : Store}
    (h : Fetched s most before store) : Fetched s most before store.finish.2 := by
  unfold Store.finish
  cases hfailures : store.failures with
  | nil => exact h
  | cons fault rest =>
    refine ⟨h.asked, h.bounded, h.last, h.rows, h.delay, ?_⟩
    have hrest : rest <:+ store.failures := by
      rw [hfailures]
      exact List.suffix_cons fault rest
    exact hrest.trans h.failures

namespace Store

theorem fetched_receive (s : Statement) (store : Store) : Fetched s 1 store (store.receive s) where
  asked := Nat.lt_succ_self _
  bounded := le_refl _
  last := rfl
  rows := rfl
  delay := rfl
  failures := List.suffix_refl _

theorem finish_ne_abandoned (store : Store) : store.finish.1 ≠ .abandoned := by
  unfold finish
  cases store.failures with
  | nil => nofun
  | cons fault rest => nofun

/-- An attempt that is waited for to its end is one call. -/
theorem attempt_none {timeout : Nat} {s : Statement} {store after : Store} {outcome : Attempt}
    {left : Patience} (h : store.attempt timeout s none = (outcome, after, left)) :
    outcome ≠ .abandoned ∧ left = none ∧ Fetched s 1 store after := by
  have hreceived := fetched_receive s store
  unfold attempt at h
  simp only [Patience.after?] at h
  split at h
  · cases h
    exact ⟨finish_ne_abandoned _, rfl, hreceived.finish⟩
  · cases h
    exact ⟨nofun, rfl, hreceived⟩

/-- One round: the first attempt settles the matter, or the rest is left to one retry less. -/
theorem fetch_cases (policy : RetryPolicy) (s : Statement) (retries : Nat) (store : Store) :
    ∃ next, Fetched s 1 store next ∧
      ((∃ rows, store.fetch policy s retries none = (.ok rows, next)) ∨
        (∃ failure, store.fetch policy s retries none = (.error (.store failure), next)) ∨
        ∃ n, retries = n + 1 ∧
          store.fetch policy s retries none = next.fetch policy s n none) := by
  rcases hattempt : store.attempt policy.timeout s none with ⟨outcome, next, left⟩
  obtain ⟨hended, rfl, hfetched⟩ := attempt_none hattempt
  refine ⟨next, hfetched, ?_⟩
  rw [fetch, hattempt]
  cases outcome with
  | answered rows => exact .inl ⟨rows, rfl⟩
  | failed failure =>
    right
    cases retries with
    | zero => exact .inl ⟨failure, rfl⟩
    | succ n =>
      dsimp only
      cases failure.isTransient with
      | true => exact .inr ⟨n, rfl, rfl⟩
      | false => exact .inl ⟨failure, rfl⟩
  | abandoned => exact absurd rfl hended

/-- Whoever never gives up gets rows or a failure of the store. Every way to get there has asked
for the statement, and at most once for each retry and once more. -/
theorem fetch_none (policy : RetryPolicy) (s : Statement) (retries : Nat) (store : Store) :
    Fetched s (retries + 1) store (store.fetch policy s retries none).2 ∧
      ∀ fault, (store.fetch policy s retries none).1 = .error fault → ∃ f, fault = .store f := by
  induction retries generalizing store with
  | zero =>
    obtain ⟨next, hfetched, ⟨rows, hrows⟩ | ⟨failure, hfailed⟩ | ⟨n, hn, -⟩⟩ :=
      fetch_cases policy s 0 store
    · rw [hrows]
      exact ⟨hfetched, nofun⟩
    · rw [hfailed]
      exact ⟨hfetched, fun fault h => ⟨failure, (Except.error.inj h).symm⟩⟩
    · contradiction
  | succ n ih =>
    obtain ⟨next, hfetched, ⟨rows, hrows⟩ | ⟨failure, hfailed⟩ | ⟨m, hm, hrest⟩⟩ :=
      fetch_cases policy s (n + 1) store
    · rw [hrows]
      exact ⟨hfetched.mono (by omega), nofun⟩
    · rw [hfailed]
      exact ⟨hfetched.mono (by omega), fun fault h => ⟨failure, (Except.error.inj h).symm⟩⟩
    · obtain rfl : n = m := by omega
      rw [hrest]
      obtain ⟨hlater, hfault⟩ := ih next
      exact ⟨(hfetched.trans hlater).mono (by omega), hfault⟩

/-- One round with any patience: the matter is settled, or the rest is left to one retry less. -/
theorem fetch_round (policy : RetryPolicy) (s : Statement) (retries : Nat) (store : Store)
    (p : Patience) :
    ∃ next, (∃ rows, store.fetch policy s retries p = (.ok rows, next)) ∨
      store.fetch policy s retries p = (.error .cancelled, next) ∨
      (∃ failure, store.fetch policy s retries p = (.error (.store failure), next)) ∨
      ∃ n left, retries = n + 1 ∧ store.fetch policy s retries p = next.fetch policy s n left := by
  rcases hattempt : store.attempt policy.timeout s p with ⟨outcome, next, left⟩
  refine ⟨next, ?_⟩
  rw [fetch, hattempt]
  cases outcome with
  | answered rows => exact .inl ⟨rows, rfl⟩
  | abandoned => exact .inr (.inl rfl)
  | failed failure =>
    right
    cases retries with
    | zero => exact .inr (.inl ⟨failure, rfl⟩)
    | succ n =>
      dsimp only
      cases failure.isTransient with
      | false => exact .inr (.inl ⟨failure, rfl⟩)
      | true =>
        cases hpause : left.after? policy.pause with
        | none => exact .inl rfl
        | some rest => exact .inr (.inr ⟨n, rest, rfl, rfl⟩)

/-- Whoever gives up is told so, and everyone else is told how the store failed. -/
theorem fetch_eq_error {policy : RetryPolicy} {s : Statement} {retries : Nat} {store : Store}
    {p : Patience} {fault : Fault} (h : (store.fetch policy s retries p).1 = .error fault) :
    fault = .cancelled ∨ ∃ f, fault = .store f := by
  induction retries generalizing store p with
  | zero =>
    obtain ⟨next, ⟨rows, hend⟩ | hend | ⟨failure, hend⟩ | ⟨n, left, hn, -⟩⟩ :=
      fetch_round policy s 0 store p
    · simp [hend] at h
    · exact .inl (by simpa [hend, eq_comm] using h)
    · exact .inr ⟨failure, by simpa [hend, eq_comm] using h⟩
    · contradiction
  | succ n ih =>
    obtain ⟨next, ⟨rows, hend⟩ | hend | ⟨failure, hend⟩ | ⟨m, left, hm, hrest⟩⟩ :=
      fetch_round policy s (n + 1) store p
    · simp [hend] at h
    · exact .inl (by simpa [hend, eq_comm] using h)
    · exact .inr ⟨failure, by simpa [hend, eq_comm] using h⟩
    · obtain rfl : n = m := by omega
      rw [hrest] at h
      exact ih h

end Store

end CivicReport
